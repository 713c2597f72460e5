import RedisClient.Proofs.Json.Scalars

/-!
# Reading any number

A number of the grammar is taken off a text as a whole, whatever its length (`NumberText.read`). It is
an integer for the reader only if it is the numeral of one: what has a fraction or an exponent, or more
digits than fit 64 bits, comes to a double or is refused. So the readers of integers read the numerals of
the integers that they accept, as these integers, and refuse all other numbers (`number_literal`).
-/

namespace RedisClient.Json

variable {α : Type} {l ds sign fraction exponent rest : List Char} {negative : Bool} {n skipped : Nat}
  {power : Int}

/-! ## Digits and what follows them -/

def NoDigit (s : List Char) : Prop := ∀ c, s.head? = some c → c.isDigit = false

theorem Ends.noDigit (ends : Ends rest) : NoDigit rest := by
  intro c first
  cases rest with
  | nil => cases first
  | cons d rest =>
    cases first
    exact ends.not_number.1

theorem noDigit_cons {c : Char} (other : c.isDigit = false) : NoDigit (c :: rest) := by
  rintro d ⟨⟩
  exact other

theorem ExponentText.noDigit (scaled : ExponentText exponent) (ends : Ends rest) :
    NoDigit (exponent ++ rest) := by
  cases scaled with
  | none => exact ends.noDigit
  | some letter => exact noDigit_cons (by rcases letter with rfl | rfl <;> decide)

theorem FractionText.noDigit (fractional : FractionText fraction) (scaled : ExponentText exponent)
    (ends : Ends rest) : NoDigit (fraction ++ (exponent ++ rest)) := by
  cases fractional with
  | none => exact scaled.noDigit ends
  | some digits => exact noDigit_cons (by decide)

/-- Digits are collected up to one with which the value no longer fits, and there is such a one if the
value of all of them does not fit. -/
theorem collect_append (digits : ∀ d ∈ ds, d.isDigit = true) (fits : n < 2 ^ 64) :
    ∃ final count left, final < 2 ^ 64 ∧ (∀ d ∈ left, d.isDigit = true) ∧
      (2 ^ 64 ≤ ds.foldl (fun value d => 10 * value + Text.digitValue d) n → left ≠ []) ∧
      ∀ s, NoDigit s → collect n (ds ++ s) = (final, count, left ++ s) := by
  induction ds generalizing n with
  | nil =>
    refine ⟨n, 0, [], fits, by simp, fun big => absurd fits (Nat.not_lt.2 big), fun s stop => ?_⟩
    cases s with
    | nil => rfl
    | cons c s => simp [collect, stop c rfl]
  | cons d ds ih =>
    obtain ⟨digit, others⟩ := List.forall_mem_cons.1 digits
    by_cases next : 10 * n + Text.digitValue d < 2 ^ 64
    · obtain ⟨final, count, left, small, rests, more, collects⟩ := ih others next
      refine ⟨final, count + 1, left, small, rests, more, fun s stop => ?_⟩
      simp only [List.cons_append, collect, digit, next, and_self, if_true, collects s stop]
    · refine ⟨n, 0, d :: ds, fits, digits, by simp, fun s _ => ?_⟩
      simp only [List.cons_append, collect, next, and_false, if_false]

/-! ## Doubles -/

/-- The reader takes the text off whatever follows it, and this comes to a double or to a fault. -/
def ReadsReal (read : Reader Number) (l : List Char) : Prop :=
  ∃ result : Except Fault Binary64, ∀ rest, Ends rest →
    read (l ++ rest) = result.map fun x => (.real x, rest)

theorem real_reads : ReadsReal (real negative n power) [] := ⟨_, fun _ _ => rfl⟩

/-- The sign of an exponent is told from its digits. -/
theorem exponentSign_append (signed : sign = [] ∨ sign = ['+'] ∨ sign = ['-']) (digits : Digits ds) :
    ∃ down, ∀ s, exponentSign (sign ++ (ds ++ s)) = (down, ds ++ s) := by
  obtain ⟨nonempty, all⟩ := digits
  obtain ⟨d, ds, rfl⟩ := List.exists_cons_of_ne_nil nonempty
  have digit := all d List.mem_cons_self
  rcases signed with rfl | rfl | rfl
  · refine ⟨false, fun s => ?_⟩
    rw [List.nil_append, List.cons_append, exponentSign]
    · rintro _ ⟨⟩
      cases digit
    · rintro _ ⟨⟩
      cases digit
  · exact ⟨false, fun s => rfl⟩
  · exact ⟨true, fun s => rfl⟩

theorem readExponent_reads (signed : sign = [] ∨ sign = ['+'] ∨ sign = ['-']) (digits : Digits ds) :
    ReadsReal (readExponent negative n power) (sign ++ ds) := by
  obtain ⟨down, cut⟩ := exponentSign_append signed digits
  obtain ⟨nonempty, all⟩ := digits
  obtain ⟨d, ds, rfl⟩ := List.exists_cons_of_ne_nil nonempty
  have digit := all d List.mem_cons_self
  have read (s : List Char) (stop : NoDigit s) : readExponent negative n power (sign ++ (d :: ds) ++ s) =
      if Text.digitsValue (d :: ds) < 2 ^ 31 then
        real negative n
          (if down then power - Text.digitsValue (d :: ds) else power + Text.digitsValue (d :: ds)) s
      else if n ≠ 0 ∧ !down then .error .numberTooLarge
      else .ok (.real (.ofMagnitude negative 0), s) := by
    obtain ⟨front, back⟩ := Text.takeWhile_digits all stop
    rw [readExponent, List.append_assoc, cut]
    simp only [List.cons_append] at front back ⊢
    simp only [digit, front, back, Bool.not_true, Bool.false_eq_true, if_false]
  by_cases small : Text.digitsValue (d :: ds) < 2 ^ 31
  · obtain ⟨result, reads⟩ : ReadsReal (real negative n
      (if down then power - Text.digitsValue (d :: ds) else power + Text.digitsValue (d :: ds))) [] :=
        real_reads
    refine ⟨result, fun rest ends => ?_⟩
    rw [read rest ends.noDigit, if_pos small]
    exact reads rest ends
  · by_cases large : n ≠ 0 ∧ !down
    · refine ⟨.error .numberTooLarge, fun rest ends => ?_⟩
      rw [read rest ends.noDigit, if_neg small, if_pos large]
      rfl
    · refine ⟨.ok (.ofMagnitude negative 0), fun rest ends => ?_⟩
      rw [read rest ends.noDigit, if_neg small, if_neg large]
      rfl

theorem readScale_reads (scaled : ExponentText exponent) :
    ReadsReal (readScale negative n power) exponent := by
  cases scaled with
  | none =>
    obtain ⟨result, reads⟩ : ReadsReal (real negative n power) [] := real_reads
    refine ⟨result, fun rest ends => ?_⟩
    rw [← reads rest ends, List.nil_append]
    cases rest with
    | nil => rfl
    | cons c rest =>
      obtain ⟨-, -, lower, upper⟩ := ends.not_number
      rw [readScale]
      · rintro _ ⟨⟩
        exact lower rfl
      · rintro _ ⟨⟩
        exact upper rfl
  | some letter signed digits =>
    obtain ⟨result, reads⟩ : ReadsReal (readExponent negative n power) _ :=
      readExponent_reads signed digits
    refine ⟨result, fun rest ends => ?_⟩
    rw [← reads rest ends]
    rcases letter with rfl | rfl <;> rfl

theorem readFraction_reads (digits : Digits ds) (scaled : ExponentText exponent) (fits : n < 2 ^ 64) :
    ReadsReal (readFraction negative n power) (ds ++ exponent) := by
  obtain ⟨nonempty, all⟩ := digits
  obtain ⟨final, count, left, -, rests, -, collects⟩ := collect_append all fits
  obtain ⟨result, reads⟩ : ReadsReal (readScale negative final (power - count)) _ :=
    readScale_reads scaled
  refine ⟨result, fun rest ends => ?_⟩
  have stop := scaled.noDigit ends
  have skipped := (Text.takeWhile_digits rests stop).2
  have collected := collects _ stop
  rw [← reads rest ends, List.append_assoc]
  obtain ⟨d, ds, rfl⟩ := List.exists_cons_of_ne_nil nonempty
  have digit := all d List.mem_cons_self
  rw [List.cons_append] at collected ⊢
  simp only [readFraction, digit, collected, skipped, Bool.not_true, Bool.false_eq_true, if_false]

/-- A fraction, an exponent or skipped digits make a double of a number. -/
theorem readTail_reads (fractional : FractionText fraction) (scaled : ExponentText exponent)
    (fits : n < 2 ^ 64) (more : fraction ++ exponent ≠ [] ∨ skipped ≠ 0) :
    ReadsReal (readTail negative n skipped) (fraction ++ exponent) := by
  cases fractional with
  | some digits =>
    obtain ⟨result, reads⟩ : ReadsReal (readFraction negative n skipped) _ :=
      readFraction_reads digits scaled fits
    exact ⟨result, reads⟩
  | none =>
    cases scaled with
    | some letter signed digits =>
      obtain ⟨result, reads⟩ : ReadsReal (readExponent negative n skipped) _ :=
        readExponent_reads signed digits
      refine ⟨result, fun rest ends => ?_⟩
      rw [← reads rest ends]
      rcases letter with rfl | rfl <;> rfl
    | none =>
      have some : skipped ≠ 0 := more.elim (absurd rfl) id
      obtain ⟨result, reads⟩ : ReadsReal (real negative n skipped) [] := real_reads
      refine ⟨result, fun rest ends => ?_⟩
      rw [← reads rest ends, List.nil_append]
      cases rest with
      | nil => simp [readTail, some]
      | cons c rest =>
        obtain ⟨-, point, lower, upper⟩ := ends.not_number
        unfold readTail
        split <;> simp_all

/-! ## Whole numbers in front -/

theorem readNumber_zero (stop : NoDigit rest) :
    readNumber negative ('0' :: rest) = readTail negative 0 0 rest := by
  cases rest with
  | nil => rfl
  | cons c rest => simp only [readNumber, stop c rfl, Bool.false_eq_true, if_false]

/-- A number that begins with another digit: the digits that do not fit are counted. -/
theorem readNumber_digits {d : Char} {s left : List Char} {final count : Nat} (digit : d.isDigit = true)
    (nonzero : d ≠ '0') (collected : collect (Text.digitValue d) s = (final, count, left ++ rest))
    (rests : ∀ d ∈ left, d.isDigit = true) (stop : NoDigit rest) :
    readNumber negative (d :: s) = readTail negative final left.length rest := by
  obtain ⟨front, back⟩ := Text.takeWhile_digits rests stop
  rw [readNumber]
  · simp only [digit, collected, front, back, Bool.not_true, Bool.false_eq_true, if_false]
  · simpa using nonzero

theorem digitValue_lt {d : Char} (digit : d.isDigit = true) : Text.digitValue d < 10 := by
  have last : d.toNat ≤ 57 := by
    rw [Char.isDigit_iff_toNat] at digit
    exact digit.2
  have first : '0'.toNat = 48 := rfl
  rw [Text.digitValue, first]
  omega

/-- What has a fraction or an exponent, or too many digits, comes to a double. -/
theorem readNumber_reads (whole : Whole ds) (fractional : FractionText fraction)
    (scaled : ExponentText exponent)
    (more : fraction ++ exponent ≠ [] ∨ 2 ^ 64 ≤ Text.digitsValue ds) :
    ReadsReal (readNumber negative) (ds ++ (fraction ++ exponent)) := by
  obtain ⟨⟨nonempty, all⟩, lead⟩ := whole
  obtain ⟨d, ds, rfl⟩ := List.exists_cons_of_ne_nil nonempty
  by_cases zero : d = '0'
  · subst zero
    cases lead rfl
    have value : Text.digitsValue ['0'] = 0 := rfl
    have tail : fraction ++ exponent ≠ [] := more.elim id fun big => by omega
    obtain ⟨result, reads⟩ : ReadsReal (readTail negative 0 0) _ :=
      readTail_reads fractional scaled (by omega) (.inl tail)
    refine ⟨result, fun rest ends => ?_⟩
    rw [← reads rest ends, List.singleton_append, List.cons_append, List.append_assoc,
      readNumber_zero (fractional.noDigit scaled ends)]
  · obtain ⟨digit, others⟩ := List.forall_mem_cons.1 all
    have value : Text.digitsValue (d :: ds) =
        ds.foldl (fun value d => 10 * value + Text.digitValue d) (Text.digitValue d) := by
      simp [Text.digitsValue]
    rw [value] at more
    have small := digitValue_lt digit
    obtain ⟨final, count, left, fits, rests, many, collects⟩ :=
      collect_append (n := Text.digitValue d) others (by omega)
    have skipped : fraction ++ exponent ≠ [] ∨ left.length ≠ 0 :=
      more.imp_right fun big => mt List.length_eq_zero_iff.1 (many big)
    obtain ⟨result, reads⟩ : ReadsReal (readTail negative final left.length) _ :=
      readTail_reads fractional scaled fits skipped
    refine ⟨result, fun rest ends => ?_⟩
    have stop := fractional.noDigit scaled ends
    rw [← reads rest ends, List.cons_append, List.cons_append, List.append_assoc, List.append_assoc]
    exact readNumber_digits digit zero (collects _ stop) rests stop

/-! ## Numbers with their signs -/

def readSigned : Reader Number
  | '-' :: s => readNumber true s
  | s => readNumber false s

/-- The text is the numeral of a number that was read as an integer. -/
def Number.Denoted (l : List Char) : Number → Prop
  | .natural n => IntegerText n l
  | .negative n => IntegerText (-(n : Int)) l
  | .real _ => True

theorem readNumber_literal (whole : Whole ds) (fractional : FractionText fraction)
    (scaled : ExponentText exponent) (negative : Bool) : ∃ result : Except Fault Number,
      (∀ rest, Ends rest →
        readNumber negative (ds ++ (fraction ++ exponent) ++ rest) = result.map (·, rest)) ∧
      ∀ n, result = .ok n → (∃ x, n = .real x) ∨
        fraction ++ exponent = [] ∧ n = integer negative (Text.digitsValue ds) := by
  by_cases more : fraction ++ exponent ≠ [] ∨ 2 ^ 64 ≤ Text.digitsValue ds
  · obtain ⟨result, reads⟩ : ReadsReal (readNumber negative) _ :=
      readNumber_reads whole fractional scaled more
    refine ⟨result.map .real, fun rest ends => ?_, fun n eq => .inl ?_⟩
    · rw [reads rest ends]
      cases result <;> rfl
    · cases result with
      | error fault => cases eq
      | ok x => exact ⟨x, (Except.ok.inj eq).symm⟩
  · obtain ⟨plain, fits⟩ := not_or.1 more
    have plain : fraction ++ exponent = [] := Decidable.not_not.1 plain
    refine ⟨.ok (integer negative (Text.digitsValue ds)), fun rest ends => ?_, fun n eq => .inr ?_⟩
    · rw [plain, List.append_nil]
      exact readNumber_whole whole (Nat.not_le.1 fits) ends negative
    · exact ⟨plain, (Except.ok.inj eq).symm⟩

theorem readSigned_digit {d : Char} (digit : d.isDigit = true) (s : List Char) :
    readSigned (d :: s) = readNumber false (d :: s) := by
  rw [readSigned]
  rintro _ ⟨⟩
  cases digit

/-- A number is taken as a whole, and if it is taken for an integer, it is the numeral of it. -/
theorem NumberText.read (number : NumberText l) : ∃ result : Except Fault Number,
    (∀ rest, Ends rest → readSigned (l ++ rest) = result.map (·, rest)) ∧
      ∀ n, result = .ok n → n.Denoted l := by
  cases number with
  | positive whole fractional scaled =>
    obtain ⟨result, reads, denotes⟩ := readNumber_literal whole fractional scaled false
    refine ⟨result, fun rest ends => ?_, fun n eq => ?_⟩
    · rw [← reads rest ends]
      obtain ⟨d, tail, rfl, digit⟩ := whole.starts
      exact readSigned_digit digit _
    · rcases denotes n eq with ⟨x, rfl⟩ | ⟨plain, rfl⟩
      · trivial
      · rw [plain, List.append_nil]
        exact .natural whole
  | @negative ds fraction exponent whole fractional scaled =>
    obtain ⟨result, reads, denotes⟩ := readNumber_literal whole fractional scaled true
    refine ⟨result, reads, fun n eq => ?_⟩
    rcases denotes n eq with ⟨x, rfl⟩ | ⟨plain, rfl⟩
    · trivial
    · rw [plain, List.append_nil]
      -- only from 1 to `2^63` there is a negative integer
      by_cases fits : 0 < Text.digitsValue ds ∧ Text.digitsValue ds ≤ 2 ^ 63
      · simp only [integer, Bool.not_true, Bool.false_eq_true, if_false, fits, and_self, if_true]
        exact .negative whole (by omega)
      · simp only [integer, Bool.not_true, Bool.false_eq_true, if_false, fits]
        trivial

/-! ## Fields for integers -/

/-- What a field for integers makes of a number. -/
def Number.accepted (expected : String) (accept : Int → Option α) : Number → Except Fault α
  | .real x => .error (.wrongType (.real x) expected)
  | .natural n => (accept n).elim (.error (.outOfRange n expected)) .ok
  | .negative n => (accept (-(n : Int))).elim (.error (.outOfRange (-(n : Int)) expected)) .ok

variable {expected : String} {accept : Int → Option α} {a : α}

/-- If a number that was read is accepted, it was an integer, and one that is accepted. -/
theorem Number.accepted_eq_ok {n : Number} (denoted : n.Denoted l)
    (ok : n.accepted expected accept = .ok a) : ∃ k, IntegerText k l ∧ accept k = some a := by
  cases n with
  | real x => cases ok
  | natural n =>
    cases taken : accept n with
    | none => simp [accepted, taken] at ok
    | some b =>
      simp only [accepted, taken, Option.elim_some, Except.ok.injEq] at ok
      exact ⟨n, denoted, ok ▸ taken⟩
  | negative n =>
    cases taken : accept (-(n : Int)) with
    | none => simp [accepted, taken] at ok
    | some b =>
      simp only [accepted, taken, Option.elim_some, Except.ok.injEq] at ok
      exact ⟨_, denoted, ok ▸ taken⟩

/-- A number is accepted or not whatever follows it. -/
theorem Number.accepted_append (read : Number × List Char) :
    (match read with
      | (.real x, _) => .error (.wrongType (.real x) expected)
      | (.natural n, s) => (accept n).elim (.error (.outOfRange n expected)) fun a => .ok (a, s)
      | (.negative n, s) =>
        (accept (-(n : Int))).elim (.error (.outOfRange (-(n : Int)) expected)) fun a => .ok (a, s)) =
      (read.1.accepted expected accept).map (·, read.2) := by
  obtain ⟨n, s⟩ := read
  cases n with
  | real x => rfl
  | natural n => cases taken : accept n <;> simp only [accepted, taken] <;> rfl
  | negative n => cases taken : accept (-(n : Int)) <;> simp only [accepted, taken] <;> rfl

/-- A field for integers reads a number with its sign, and looks whether it is accepted. -/
theorem number_eq {c : Char} (start : c = '-' ∨ c.isDigit = true) (s : List Char) :
    number expected accept (c :: s) = (readSigned (c :: s)).bind fun read =>
      (read.1.accepted expected accept).map (·, read.2) := by
  have solid : isSpace c = false := by
    rcases start with rfl | digit
    · decide
    · exact (isDigit_not_space digit).1
  rw [number, skipSpace_cons solid]
  split
  · rename_i same
    cases same
    exact congrArg (Except.bind _) (funext Number.accepted_append)
  · rename_i unsigned same
    cases same
    have digit := start.resolve_left unsigned
    rw [if_pos digit, readSigned_digit digit]
    exact congrArg (Except.bind _) (funext Number.accepted_append)
  · rename_i same
    cases same

/-- A number is read as an integer that is accepted, or refused. -/
theorem number_literal (literal : NumberText l) : ∃ result : Except Fault α,
    Reads (number expected accept) l result ∧
      ∀ a, result = .ok a → ∃ k, IntegerText k l ∧ accept k = some a := by
  obtain ⟨read, reads, denoted⟩ := literal.read
  refine ⟨read.bind (·.accepted expected accept), fun w rest spaces ends => ?_, fun a ok => ?_⟩
  · have skipped : number expected accept (w ++ (l ++ rest)) = number expected accept (l ++ rest) := by
      rw [number, number, skipSpace_spaces spaces]
    have taken := reads rest ends
    rw [skipped]
    obtain ⟨c, tail, rfl, start⟩ := literal.starts
    rw [List.cons_append, number_eq start, ← List.cons_append, taken]
    cases read <;> rfl
  · cases read with
    | error fault => cases ok
    | ok n => exact Number.accepted_eq_ok (denoted n rfl) ok

/-- Of all numbers a field reads the numerals of the integers that it accepts, if it accepts none outside
of 64 bits. -/
theorem number_alone (literal : NumberText l)
    (range : ∀ k a, accept k = some a → -2 ^ 63 ≤ k ∧ k < 2 ^ 64) :
    alone (number expected accept) l = .ok a ↔ ∃ k, IntegerText k l ∧ accept k = some a := by
  constructor
  · intro ok
    obtain ⟨result, reads, accepted⟩ := number_literal literal
    exact accepted a (reads.alone.symm.trans ok)
  · rintro ⟨k, numeral, accepted⟩
    obtain ⟨low, high⟩ := range k a accepted
    exact (number_reads numeral low high accepted).alone

end RedisClient.Json
