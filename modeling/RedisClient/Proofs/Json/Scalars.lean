import RedisClient.Proofs.Json.Grammar
import RedisClient.Proofs.Text.Digits

/-!
# Reading scalars

A reader reads a value from a text if it takes exactly this text off whatever follows, provided
that a value may end there (`Reads`). The readers for texts, integers and flags read what the
grammar says that they are (`text_reads`, `flag_reads`, `number_reads`), and what is written for a
value is in the grammar (`quote_textText`, `writeFlag_flagText`, `toString_integer`). The types of
integers differ in their bounds only: what is said of one holds of all that are `Bounded`.
-/

namespace RedisClient.Json

variable {α : Type} {w l rest body ds t : List Char} {c : Char} {n : Nat} {k : Int}

/-- The reader takes the text `l` off what follows it, and this comes to `result`. -/
def Reads (read : Reader α) (l : List Char) (result : Except Fault α) : Prop :=
  ∀ w rest, Spaces w → Ends rest → read (w ++ (l ++ rest)) = result.map fun a => (a, rest)

/-- What the reader makes of a text that stands alone. -/
def alone (read : Reader α) (l : List Char) : Except Fault α := (read l).map Prod.fst

/-! ## Spaces -/

theorem Spaces.nil : Spaces [] := fun _ mem => absurd mem List.not_mem_nil

/-- The result of a reader with a text is the one that it comes to with this text alone. -/
theorem Reads.alone {read : Reader α} {result : Except Fault α} (reads : Reads read l result) :
    Json.alone read l = result := by
  have ends : Ends [] := by rintro c ⟨⟩
  have read := reads [] [] Spaces.nil ends
  rw [List.nil_append, List.append_nil] at read
  rw [Json.alone, read]
  cases result <;> rfl

theorem Spaces.tail (h : Spaces (c :: w)) : Spaces w := fun d mem => h d (List.mem_cons_of_mem c mem)

theorem skipSpace_spaces (h : Spaces w) (s : List Char) : skipSpace (w ++ s) = skipSpace s := by
  induction w with
  | nil => rfl
  | cons c w ih =>
    have space : isSpace c = true := h c (List.mem_cons_self ..)
    simp only [skipSpace, List.cons_append, List.dropWhile_cons, space, if_true]
    exact ih h.tail

theorem skipSpace_cons (h : isSpace c = false) (s : List Char) : skipSpace (c :: s) = c :: s := by
  simp only [skipSpace, List.dropWhile_cons, h, Bool.false_eq_true, if_false]

/-- What a value ends before does not go on with it. -/
theorem Ends.not_number (h : Ends (c :: rest)) :
    c.isDigit = false ∧ c ≠ '.' ∧ c ≠ 'e' ∧ c ≠ 'E' := by
  have first := h c rfl
  simp only [isSpace, Bool.or_eq_true, beq_iff_eq] at first
  rcases first with (((rfl | rfl) | rfl) | rfl) | rfl | rfl | rfl <;> decide

/-! ## Texts -/

theorem readHex_hexText (h : HexText n ds) (rest : List Char) :
    readHex (ds ++ rest) = .ok (n, rest) := by
  obtain ⟨first, second, third, fourth⟩ := h
  simp only [List.cons_append, List.nil_append, readHex, first, second, third, fourth]

/-- A character is no surrogate. -/
theorem not_surrogate (c : Char) :
    isLowSurrogate c.toNat = false ∧ isHighSurrogate c.toNat = false := by
  have valid : c.toNat.isValidChar := c.valid
  constructor
  · simp only [isLowSurrogate, Bool.and_eq_false_iff, decide_eq_false_iff_not]
    omega
  · simp only [isHighSurrogate, Bool.and_eq_false_iff, decide_eq_false_iff_not]
    omega

/-- The two surrogates of a character stand for it. -/
theorem joinSurrogates_pair (beyond : 0x10000 ≤ c.toNat) :
    joinSurrogates (0xD800 + (c.toNat - 0x10000) / 0x400)
      (0xDC00 + (c.toNat - 0x10000) % 0x400) = c := by
  have sum : 0x10000 + (0xD800 + (c.toNat - 0x10000) / 0x400 - 0xD800) * 0x400 +
      (0xDC00 + (c.toNat - 0x10000) % 0x400 - 0xDC00) = c.toNat := by omega
  rw [joinSurrogates, sum, Char.ofNat_toNat]

theorem readEscape_hex (number : HexText c.toNat ds) (rest : List Char) :
    readEscape ('u' :: (ds ++ rest)) = .ok (c, rest) := by
  obtain ⟨low, high⟩ := not_surrogate c
  simp only [readEscape, readHex_hexText number, low, high, Bool.false_eq_true, if_false,
    Char.ofNat_toNat]

theorem readEscape_pair {ds' : List Char} (beyond : 0x10000 ≤ c.toNat)
    (high : HexText (0xD800 + (c.toNat - 0x10000) / 0x400) ds)
    (low : HexText (0xDC00 + (c.toNat - 0x10000) % 0x400) ds') (rest : List Char) :
    readEscape ('u' :: (ds ++ '\\' :: 'u' :: (ds' ++ rest))) = .ok (c, rest) := by
  have valid : c.toNat.isValidChar := c.valid
  have notLow : isLowSurrogate (0xD800 + (c.toNat - 0x10000) / 0x400) = false := by
    simp only [isLowSurrogate, Bool.and_eq_false_iff, decide_eq_false_iff_not]
    omega
  have isHigh : isHighSurrogate (0xD800 + (c.toNat - 0x10000) / 0x400) = true := by
    simp only [isHighSurrogate, Bool.and_eq_true, decide_eq_true_eq]
    omega
  have isLow : isLowSurrogate (0xDC00 + (c.toNat - 0x10000) % 0x400) = true := by
    simp only [isLowSurrogate, Bool.and_eq_true, decide_eq_true_eq]
    omega
  simp only [readEscape, readHex_hexText high, notLow, isHigh, readLowSurrogate,
    readHex_hexText low, isLow, Bool.false_eq_true, if_false, if_true, joinSurrogates_pair beyond]

theorem readEscape_short {letter : Char} (escape : shortEscape? letter = some c)
    (rest : List Char) : readEscape (letter :: rest) = .ok (c, rest) := by
  have ne : letter ≠ 'u' := by
    rintro rfl
    cases escape
  rw [readEscape]
  · rw [escape]
    rfl
  · exact ne

theorem readChars_escape {fuel : Nat} {done s rest : List Char}
    (escape : readEscape s = .ok (c, rest)) :
    readChars (fuel + 1) done ('\\' :: s) = readChars fuel (c :: done) rest := by
  rw [readChars]
  simp only [escape]

theorem readChars_plain {fuel : Nat} {done rest : List Char} (itself : Plain c) :
    readChars (fuel + 1) done (c :: rest) = readChars fuel (c :: done) rest := by
  rw [readChars, if_neg itself.noControl]
  · exact itself.noQuote
  · exact itself.noBackslash

/-- A character is read first, and then the others. -/
theorem readChars_next {fuel : Nat} {done s rest : List Char}
    (first : ∀ k, readChars (k + 1) done s = readChars k (c :: done) (body ++ '"' :: rest))
    (others : ∀ {fuel : Nat}, body.length < fuel → ∀ done, readChars fuel done (body ++ '"' :: rest) =
      .ok (String.ofList (done.reverse ++ t), rest))
    (enough : body.length + 1 < fuel) :
    readChars fuel done s = .ok (String.ofList (done.reverse ++ c :: t), rest) := by
  obtain ⟨k, rfl⟩ := Nat.exists_eq_add_of_lt enough
  rw [first, others (by omega), List.reverse_cons, List.append_assoc]
  rfl

/-- Characters are read as they are spelled; the fuel lasts, as each is spelled by one at least. -/
theorem readChars_spells (spelled : Spells t body) {fuel : Nat} (enough : body.length < fuel)
    (done rest : List Char) : readChars fuel done (body ++ '"' :: rest) =
      .ok (String.ofList (done.reverse ++ t), rest) := by
  induction spelled generalizing fuel done with
  | nil =>
    obtain ⟨k, rfl⟩ := Nat.exists_eq_add_of_lt enough
    simp [readChars]
  | plain itself _ ih =>
    simp only [List.length_cons] at enough
    exact readChars_next (fun _ => readChars_plain itself) ih enough
  | short escape _ ih =>
    simp only [List.length_cons] at enough
    exact readChars_next (fun _ => readChars_escape (readEscape_short escape _)) ih (by omega)
  | hex number _ ih =>
    simp only [List.length_cons, List.length_append] at enough
    simp only [List.cons_append, List.append_assoc]
    exact readChars_next (fun _ => readChars_escape (readEscape_hex number _)) ih (by omega)
  | pair beyond high low _ ih =>
    simp only [List.length_cons, List.length_append] at enough
    simp only [List.cons_append, List.append_assoc]
    exact readChars_next (fun _ => readChars_escape (readEscape_pair beyond high low _)) ih
      (by omega)

/-- Plain characters may be written as they are. -/
theorem Spells.itself (plain : t.all (Plain ·) = true) : Spells t t := by
  induction t with
  | nil => exact .nil
  | cons c t ih =>
    obtain ⟨first, others⟩ : Plain c ∧ t.all (Plain ·) = true := by simpa using plain
    exact .plain first (ih others)

theorem readText_spells {t : String} (spelled : Spells t.toList body) (rest : List Char) :
    readText (body ++ '"' :: rest) = .ok (t, rest) := by
  have enough : body.length < (body ++ '"' :: rest).length + 1 := by
    rw [List.length_append]
    omega
  rw [readText, readChars_spells spelled enough]
  simp

theorem text_reads {t : String} (written : TextText t l) : Reads text l (.ok t) := by
  obtain ⟨body, spelled, rfl⟩ := written
  intro w rest spaces _
  rw [text, skipSpace_spaces spaces, List.cons_append, skipSpace_cons (by decide)]
  simp only [List.append_assoc, List.cons_append, List.nil_append, readText_spells spelled]
  rfl

theorem readWord_append (word rest : List Char) : readWord word (word ++ rest) = .ok ((), rest) := by
  induction word with
  | nil => rfl
  | cons c word ih => simpa [readWord] using ih

theorem textOrNull_reads {t : Option String} (written : TextOrNull t l) :
    Reads textOrNull l (.ok t) := by
  intro w rest spaces ends
  rw [textOrNull, skipSpace_spaces spaces]
  cases t with
  | none =>
    obtain rfl : l = ['n', 'u', 'l', 'l'] := written
    rw [List.cons_append, skipSpace_cons (by decide)]
    exact congrArg (Except.map _) (readWord_append ['u', 'l', 'l'] rest)
  | some t =>
    have read := text_reads written [] rest Spaces.nil ends
    obtain ⟨body, -, rfl⟩ := written
    rw [List.cons_append, skipSpace_cons (by decide)]
    exact congrArg (Except.map _) read

/-! ## Flags -/

theorem flag_reads {b : Bool} (written : FlagText b l) : Reads flag l (.ok b) := by
  intro w rest spaces _
  rw [flag, skipSpace_spaces spaces]
  cases b with
  | true =>
    obtain rfl : l = ['t', 'r', 'u', 'e'] := written
    rw [List.cons_append, skipSpace_cons (by decide)]
    exact congrArg (Except.map _) (readWord_append ['r', 'u', 'e'] rest)
  | false =>
    obtain rfl : l = ['f', 'a', 'l', 's', 'e'] := written
    rw [List.cons_append, skipSpace_cons (by decide)]
    exact congrArg (Except.map _) (readWord_append ['a', 'l', 's', 'e'] rest)

/-! ## Numbers -/

theorem le_foldl_digits (ds : List Char) (n : Nat) :
    n ≤ ds.foldl (fun value d => 10 * value + Text.digitValue d) n := by
  induction ds generalizing n with
  | nil => exact Nat.le_refl n
  | cons d ds ih =>
    have le := ih (10 * n + Text.digitValue d)
    rw [List.foldl_cons]
    omega

/-- Digits are collected as long as their value fits. -/
theorem collect_digits (digits : ∀ d ∈ ds, d.isDigit = true) (ends : Ends rest)
    (fits : ds.foldl (fun value d => 10 * value + Text.digitValue d) n < 2 ^ 64) :
    collect n (ds ++ rest) =
      (ds.foldl (fun value d => 10 * value + Text.digitValue d) n, ds.length, rest) := by
  induction ds generalizing n with
  | nil =>
    cases rest with
    | nil => rfl
    | cons c rest => simp [collect, ends.not_number.1]
  | cons d ds ih =>
    have digit := digits d (List.mem_cons_self ..)
    rw [List.foldl_cons] at fits
    -- what has been collected so far is no larger than the whole number
    have next := Nat.lt_of_le_of_lt (le_foldl_digits ds _) fits
    simp only [List.cons_append, collect, digit, next, and_self, if_true, List.foldl_cons,
      List.length_cons, ih (fun d mem => digits d (List.mem_cons_of_mem _ mem)) fits]

theorem readTail_ends (ends : Ends rest) (negative : Bool) (n : Nat) :
    readTail negative n 0 rest = .ok (integer negative n, rest) := by
  cases rest with
  | nil => rfl
  | cons c rest =>
    obtain ⟨-, point, lower, upper⟩ := ends.not_number
    unfold readTail
    split <;> simp_all

/-- The digits of a whole number that fits are read as this number. -/
theorem readNumber_whole (whole : Whole ds) (fits : Text.digitsValue ds < 2 ^ 64)
    (ends : Ends rest) (negative : Bool) :
    readNumber negative (ds ++ rest) = .ok (integer negative (Text.digitsValue ds), rest) := by
  obtain ⟨⟨nonempty, digits⟩, lead⟩ := whole
  cases ds with
  | nil => exact absurd rfl nonempty
  | cons d ds =>
    by_cases zero : d = '0'
    · subst zero
      cases lead rfl
      have value : Text.digitsValue ['0'] = 0 := rfl
      rw [value, List.singleton_append]
      cases rest with
      | nil => rfl
      | cons c rest =>
        simp only [readNumber, ends.not_number.1, Bool.false_eq_true, if_false]
        exact readTail_ends ends negative 0
    · have digit := digits d (List.mem_cons_self ..)
      have value : Text.digitsValue (d :: ds) =
          ds.foldl (fun value d => 10 * value + Text.digitValue d) (Text.digitValue d) := by
        simp [Text.digitsValue]
      have collected := collect_digits (fun d mem => digits d (List.mem_cons_of_mem _ mem)) ends
        (value ▸ fits)
      -- no digits are left over that did not fit
      have stop : rest.takeWhile Char.isDigit = [] ∧ rest.dropWhile Char.isDigit = rest := by
        cases rest with
        | nil => exact ⟨rfl, rfl⟩
        | cons c rest => simp [ends.not_number.1]
      rw [List.cons_append, readNumber]
      · simp only [digit, Bool.not_true, Bool.false_eq_true, if_false, collected, stop,
          List.length_nil, value]
        exact readTail_ends ends negative _
      · simpa using zero

theorem isDigit_not_space (digit : c.isDigit = true) : isSpace c = false ∧ c ≠ '-' := by
  constructor
  · rw [Bool.eq_false_iff]
    intro space
    simp only [isSpace, Bool.or_eq_true, beq_iff_eq] at space
    rcases space with ((rfl | rfl) | rfl) | rfl <;> cases digit
  · rintro rfl
    cases digit

theorem Whole.starts (whole : Whole ds) : ∃ d tail, ds = d :: tail ∧ d.isDigit = true := by
  obtain ⟨d, tail, rfl⟩ := List.exists_cons_of_ne_nil whole.digits.1
  exact ⟨d, tail, rfl, whole.digits.2 d List.mem_cons_self⟩

/-- A number begins with its sign or with a digit. -/
theorem NumberText.starts (number : NumberText l) :
    ∃ c tail, l = c :: tail ∧ (c = '-' ∨ c.isDigit = true) := by
  cases number with
  | positive whole =>
    obtain ⟨d, tail, rfl, digit⟩ := whole.starts
    exact ⟨d, _, rfl, .inr digit⟩
  | negative => exact ⟨'-', _, rfl, .inl rfl⟩

theorem NumberText.start (number : NumberText (c :: t)) : c = '-' ∨ c.isDigit = true := by
  obtain ⟨d, tail, same, start⟩ := number.starts
  cases same
  exact start

/-- The numeral of an integer of 64 bits is read as this integer. -/
theorem number_reads {expected : String} {accept : Int → Option α} {a : α}
    (written : IntegerText k l) (low : -2 ^ 63 ≤ k) (high : k < 2 ^ 64)
    (accepted : accept k = some a) : Reads (number expected accept) l (.ok a) := by
  intro w rest spaces ends
  rw [number, skipSpace_spaces spaces]
  cases written with
  | natural whole =>
    have read := readNumber_whole whole (by omega) ends false
    obtain ⟨⟨nonempty, digits⟩, -⟩ := whole
    obtain ⟨d, ds, rfl⟩ := List.exists_cons_of_ne_nil nonempty
    have digit := digits d (List.mem_cons_self ..)
    obtain ⟨solid, unsigned⟩ := isDigit_not_space digit
    rw [List.cons_append] at read ⊢
    rw [skipSpace_cons solid]
    split
    · rename_i same
      cases same
      exact absurd rfl unsigned
    · rename_i same
      cases same
      simp only [digit, if_true, read, Except.bind, integer, Bool.not_false, accepted]
      rfl
    · rename_i same
      cases same
  | @negative ds whole nonzero =>
    have read := readNumber_whole whole (by omega) ends true
    have fits : 0 < Text.digitsValue ds ∧ Text.digitsValue ds ≤ 2 ^ 63 := by omega
    rw [List.cons_append, skipSpace_cons (by decide)]
    simp only [read, Except.bind, integer, Bool.not_true, Bool.false_eq_true, if_false, fits,
      and_self, if_true, accepted]
    rfl

/-! ## Machine integers -/

/-- `ofInt` and `toInt` identify the values of a type with the integers from `low` up to `bound`, all
of which have at most 64 bits. -/
structure Bounded (low bound : Int) (ofInt : Int → α) (toInt : α → Int) : Prop where
  toInt_ofInt : ∀ k, low ≤ k → k < bound → toInt (ofInt k) = k
  ofInt_toInt : ∀ a, ofInt (toInt a) = a
  range : ∀ a, low ≤ toInt a ∧ toInt a < bound
  small : -2 ^ 63 ≤ low ∧ bound ≤ 2 ^ 64

/-- A type without a sign, from how it stands to the natural numbers. -/
theorem Bounded.unsigned {width : Nat} {ofNat : Nat → α} {toNat : α → Nat} (small : width ≤ 64)
    (toNat_ofNat : ∀ {n}, n < 2 ^ width → toNat (ofNat n) = n)
    (ofNat_toNat : ∀ {a}, ofNat (toNat a) = a) (toNat_lt : ∀ a, toNat a < 2 ^ width) :
    Bounded 0 (2 ^ width) (fun k => ofNat k.toNat) fun a => toNat a where
  toInt_ofInt k low high := by
    have below : k.toNat < 2 ^ width := (Int.toNat_lt low).2 (by exact_mod_cast high)
    rw [toNat_ofNat below, Int.toNat_of_nonneg low]
  ofInt_toInt a := by rw [Int.toNat_natCast, ofNat_toNat]
  range a := ⟨Int.natCast_nonneg _, by exact_mod_cast toNat_lt a⟩
  small := ⟨by decide, by exact_mod_cast Nat.pow_le_pow_right (by decide) small⟩

theorem int64_bounded : Bounded (-2 ^ 63) (2 ^ 63) Int64.ofInt Int64.toInt :=
  ⟨fun _ => Int64.toInt_ofInt_of_le, Int64.ofInt_toInt, fun n => ⟨n.le_toInt, n.toInt_lt⟩, by decide⟩

theorem uint16_bounded : Bounded 0 (2 ^ 16) (fun k => UInt16.ofNat k.toNat) fun n => n.toNat :=
  .unsigned (by decide) UInt16.toNat_ofNat_of_lt' UInt16.ofNat_toNat UInt16.toNat_lt

theorem uint32_bounded : Bounded 0 (2 ^ 32) (fun k => UInt32.ofNat k.toNat) fun n => n.toNat :=
  .unsigned (by decide) UInt32.toNat_ofNat_of_lt' UInt32.ofNat_toNat UInt32.toNat_lt

theorem uint64_bounded : Bounded 0 (2 ^ 64) (fun k => UInt64.ofNat k.toNat) fun n => n.toNat :=
  .unsigned (by decide) UInt64.toNat_ofNat_of_lt' UInt64.ofNat_toNat UInt64.toNat_lt

/-- The numeral of a value is read as this value. -/
theorem Bounded.reads {expected : String} {low bound : Int} {ofInt : Int → α} {toInt : α → Int} {a : α}
    (type : Bounded low bound ofInt toInt) (written : IntegerText (toInt a) l) :
    Reads (bounded expected low bound ofInt) l (.ok a) := by
  obtain ⟨least, most⟩ := type.small
  have inside := type.range a
  refine number_reads written (by omega) (by omega) ?_
  rw [if_pos inside, type.ofInt_toInt]

theorem int64_reads {n : Int64} (written : IntegerText n.toInt l) : Reads int64 l (.ok n) :=
  int64_bounded.reads written

theorem uint16_reads {n : UInt16} (written : IntegerText n.toNat l) : Reads uint16 l (.ok n) :=
  uint16_bounded.reads written

theorem uint32_reads {n : UInt32} (written : IntegerText n.toNat l) : Reads uint32 l (.ok n) :=
  uint32_bounded.reads written

theorem uint64_reads {n : UInt64} (written : IntegerText n.toNat l) : Reads uint64 l (.ok n) :=
  uint64_bounded.reads written

/-! ## What is written -/

theorem hexValue?_digitChar (small : n < 16) : Text.hexValue? (Nat.digitChar n) = some n := by
  have all : ∀ k < 16, Text.hexValue? (Nat.digitChar k) = some k := by decide
  exact all n small

theorem quoteChar_spells (c : Char) (spelled : Spells t body) :
    Spells (c :: t) (quoteChar c ++ body) := by
  unfold quoteChar
  split
  case h_8 quote backslash _ _ _ _ _ =>
    split
    · rename_i control
      have number := HexText.digits (hexValue?_digitChar (n := 0) (by omega))
        (hexValue?_digitChar (n := 0) (by omega))
        (hexValue?_digitChar (n := c.toNat / 16) (by omega))
        (hexValue?_digitChar (n := c.toNat % 16) (by omega))
      have eq : 0 * 4096 + 0 * 256 + c.toNat / 16 * 16 + c.toNat % 16 = c.toNat := by omega
      rw [eq] at number
      exact .hex number spelled
    · rename_i printed
      exact .plain ⟨quote, backslash, printed⟩ spelled
  all_goals exact .short rfl spelled

/-- A written text spells the text. -/
theorem quote_textText (t : String) : TextText t (quote t).toList := by
  refine ⟨t.toList.flatMap quoteChar, ?_, by rw [quote, String.toList_ofList]⟩
  generalize t.toList = chars
  induction chars with
  | nil => exact .nil
  | cons c chars ih => exact quoteChar_spells c ih

theorem writeTextOrNull_textOrNull (t : Option String) :
    TextOrNull t (writeTextOrNull t).toList := by
  cases t with
  | none => exact show "null".toList = _ by decide
  | some t => exact quote_textText t

theorem writeFlag_flagText (b : Bool) : FlagText b (writeFlag b).toList := by
  cases b
  · exact show "false".toList = _ by decide
  · exact show "true".toList = _ by decide

/-- A notation begins with a zero only if it is that of zero. -/
theorem eq_zero_of_toDigits_lead (n : Nat) (lead : (Nat.toDigits 10 n).head? = some '0') :
    n = 0 := by
  induction n using Nat.strongRecOn with
  | ind n ih =>
    rw [Nat.toDigits_eq_if (by omega)] at lead
    split at lead
    · simpa using lead
    · obtain ⟨d, ds, front⟩ := List.exists_cons_of_ne_nil (Nat.toDigits_ne_nil (b := 10) (n := n / 10))
      have less := ih (n / 10) (by omega)
      rw [front] at lead less
      have zero := less lead
      omega

theorem toDigits_whole (n : Nat) : Whole (Nat.toDigits 10 n) := by
  refine ⟨⟨Nat.toDigits_ne_nil, fun d mem => ?_⟩, fun lead => ?_⟩
  · exact Nat.isDigit_of_mem_toDigits (by omega) (by omega) mem
  · rw [eq_zero_of_toDigits_lead n lead, Nat.toDigits_zero]

theorem toString_natural (n : Nat) : IntegerText n (toString n).toList := by
  have numeral : IntegerText _ _ := .natural (toDigits_whole n)
  rwa [Text.digitsValue_toDigits, ← Nat.toList_repr] at numeral

/-- The decimal notation of an integer is a numeral of it. -/
theorem toString_integer (k : Int) : IntegerText k (toString k).toList := by
  cases k with
  | ofNat n => exact toString_natural n
  | negSucc n =>
    have nonzero : Text.digitsValue (Nat.toDigits 10 (n + 1)) ≠ 0 := by
      rw [Text.digitsValue_toDigits]
      omega
    have signed : IntegerText _ _ := .negative (toDigits_whole (n + 1)) nonzero
    rw [Text.digitsValue_toDigits, ← Nat.toList_repr] at signed
    have sign : toString (Int.negSucc n) = "-" ++ (n + 1).repr := rfl
    rw [sign, String.toList_append]
    exact signed

end RedisClient.Json
