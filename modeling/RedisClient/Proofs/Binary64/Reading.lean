import RedisClient.Binary64.Numeral
import RedisClient.Proofs.Binary64.Rounding
import RedisClient.Proofs.Text.Digits

/-!
# Reading doubles back

`Denotes` says which texts are decimal numerals, and of which rational numbers; `ReadAs` what a text
is read as by whoever rounds to the nearest double. This depends on the text alone
(`ReadAs.unique`), because `read?` is such a reader (`ReadAs.read`).
-/

namespace RedisClient.Binary64

open Text (Numeral SignedNumeral)

/-! ## Numerals -/

/-- Digits with at most one point among them, and their number. -/
inductive Positional : List Char → ℚ → Prop
  | whole {ds : List Char} {n : Nat} (digits : Numeral ds n) : Positional ds n
  | pointed {front back : List Char} {n : Nat} (digits : Numeral (front ++ back) n) :
      Positional (front ++ '.' :: back) (n / 10 ^ back.length)

/-- The text is a decimal numeral of the number, in positional notation or with an exponent. -/
inductive Denotes : List Char → ℚ → Prop
  | positional {s : List Char} {q : ℚ} (digits : Positional s q) : Denotes s q
  | scaled {s t : List Char} {q : ℚ} {k : Int} {letter : Char} (digits : Positional s q)
      (mark : letter = 'e' ∨ letter = 'E') (exponent : SignedNumeral t k) :
      Denotes (s ++ letter :: t) (q * 10 ^ k)

/-- The sign in front of a numeral, if there is one, and whether it is a minus. -/
inductive SignText : List Char → Bool → Prop
  | none : SignText [] false
  | plus : SignText ['+'] false
  | minus : SignText ['-'] true

/-- The text is read as the double: the number of a numeral is rounded to the nearest magnitude, and
zeros too have a sign. -/
inductive ReadAs : List Char → Binary64 → Prop
  | number {sign s : List Char} {negative : Bool} {q : ℚ} {m : Nat} (signed : SignText sign negative)
      (numeral : Denotes s q) (rounded : IsNearest q m) : ReadAs (sign ++ s) (ofMagnitude negative m)
  | infinite {sign : List Char} {negative : Bool} (signed : SignText sign negative) :
      ReadAs (sign ++ ['i', 'n', 'f']) (infinity negative)

variable {s sign : List Char} {x y : Binary64} {q : ℚ} {negative : Bool}

/-! ## The reader -/

/-- Digits with a point are taken off a text up to an exponent. -/
theorem Positional.split (digits : Positional s q) (rest : List Char)
    (ends : ∀ c, rest.head? = some c → c = 'e' ∨ c = 'E') :
    ∃ n places, splitDigits (s ++ rest) = some (n, places, rest) ∧ q = n / 10 ^ places := by
  have stop (c : Char) (first : rest.head? = some c) : c.isDigit = false := by
    rcases ends c first with rfl | rfl <;> rfl
  cases digits with
  | @whole _ n digits =>
    obtain ⟨front, back⟩ := Text.takeWhile_digits digits.digits stop
    refine ⟨n, 0, ?_, by simp⟩
    -- `simp` takes this from the context to decide the match on what follows the digits
    have pointless : ∀ after, rest ≠ '.' :: after := by
      rintro after rfl
      rcases ends '.' rfl with eq | eq <;> cases eq
    have value : Text.digitsValue s = n := by rw [Text.digitsValue_eq, digits.value]
    simp only [splitDigits, front, back]
    simp [digits.nonempty, value]
  | @pointed whole fraction n digits =>
    have point (c : Char) (first : ('.' :: (fraction ++ rest)).head? = some c) : c.isDigit = false := by
      cases first
      rfl
    obtain ⟨front, back⟩ :=
      Text.takeWhile_digits (fun d mem => digits.digits d (List.mem_append_left _ mem)) point
    obtain ⟨front', back'⟩ :=
      Text.takeWhile_digits (fun d mem => digits.digits d (List.mem_append_right _ mem)) stop
    refine ⟨n, fraction.length, ?_, rfl⟩
    have value : Text.digitsValue (whole ++ fraction) = n := by
      rw [Text.digitsValue_eq, digits.value]
    have some : ¬(whole = [] ∧ fraction = []) := by
      simpa using digits.nonempty
    simp [splitDigits, front, back, front', back', value, some]

/-- The magnitude that is read is the nearest to the number of the numeral. -/
theorem Denotes.read (numeral : Denotes s q) : ∃ m, readMagnitude? s = some m ∧ IsNearest q m := by
  have ten : (10 : ℚ) ≠ 0 := by norm_num
  cases numeral with
  | positional digits =>
    obtain ⟨n, places, split, rfl⟩ := digits.split [] (by rintro c ⟨⟩)
    rw [List.append_nil] at split
    refine ⟨ofDecimal n (0 - places), by rw [readMagnitude?, split]; rfl, ?_⟩
    have value : (n : ℚ) / 10 ^ places = n * 10 ^ ((0 : Int) - places) := by
      rw [zpow_sub₀ ten, zpow_zero, zpow_natCast, mul_one_div]
    rw [value]
    exact isNearest_ofDecimal n _
  | @scaled s t _ k letter digits mark exponent =>
    obtain ⟨n, places, split, rfl⟩ := digits.split (letter :: t) (by rintro c ⟨⟩; exact mark)
    have power : readExponent? (letter :: t) = some k := by
      rw [readExponent?, if_pos mark, exponent.read]
    refine ⟨ofDecimal n (k - places), ?_, ?_⟩
    · simp [readMagnitude?, split, power]
    have value : (n : ℚ) / 10 ^ places * 10 ^ k = n * 10 ^ (k - places) := by
      rw [zpow_sub₀ ten, zpow_natCast, div_mul_eq_mul_div, mul_div_assoc]
    rw [value]
    exact isNearest_ofDecimal n _

/-- A numeral starts with a digit or a point. -/
theorem Denotes.starts (numeral : Denotes s q) : ∃ c t, s = c :: t ∧ (c.isDigit = true ∨ c = '.') := by
  have positional {s : List Char} {q : ℚ} (digits : Positional s q) :
      ∃ c t, s = c :: t ∧ (c.isDigit = true ∨ c = '.') := by
    cases digits with
    | whole digits =>
      obtain ⟨c, t, rfl⟩ := List.exists_cons_of_ne_nil digits.nonempty
      exact ⟨c, t, rfl, .inl (digits.digits c List.mem_cons_self)⟩
    | @pointed front back _ digits =>
      cases front with
      | nil => exact ⟨'.', back, rfl, .inr rfl⟩
      | cons c t => exact ⟨c, t ++ '.' :: back, rfl, .inl (digits.digits c List.mem_cons_self)⟩
  cases numeral with
  | positional digits => exact positional digits
  | scaled digits =>
    obtain ⟨c, t, rfl, first⟩ := positional digits
    exact ⟨c, _, rfl, first⟩

theorem toLower_of_isDigit {c : Char} (digit : c.isDigit = true) : c.toLower = c := by
  have last : c.val ≤ '9'.val := of_decide_eq_true (Bool.and_eq_true_iff.1 digit).2
  have between : '9'.val < 'A'.val := by decide
  exact dif_neg fun upper => UInt32.not_lt.2 upper.1 (UInt32.lt_of_le_of_lt last between)

/-- No numeral is one of the words that are read. -/
theorem Denotes.not_word (numeral : Denotes s q) :
    lower s ≠ "inf".toList ∧ lower s ≠ "infinity".toList ∧ lower s ≠ "nan".toList := by
  obtain ⟨c, t, rfl, first⟩ := numeral.starts
  have letterless : c.toLower ≠ 'i' ∧ c.toLower ≠ 'n' := by
    rcases first with digit | rfl
    · rw [toLower_of_isDigit digit]
      constructor <;>
      · rintro rfl
        cases digit
    · decide
  refine ⟨fun eq => letterless.1 ?_, fun eq => letterless.1 ?_, fun eq => letterless.2 ?_⟩ <;>
  exact (List.cons.inj eq).1

theorem SignText.split (signed : SignText sign negative) (numeral : Denotes s q) :
    splitSign (sign ++ s) = (negative, s) := by
  cases signed with
  | plus => rfl
  | minus => rfl
  | none =>
    obtain ⟨c, t, rfl, first⟩ := numeral.starts
    rw [List.nil_append, splitSign]
    · rintro _ ⟨⟩
      rcases first with digit | point
      · cases digit
      · cases point
    · rintro _ ⟨⟩
      rcases first with digit | point
      · cases digit
      · cases point

/-- The reader reads a text as the double that it is to be read as. -/
theorem ReadAs.read (h : ReadAs s x) : read? s = some x := by
  cases h with
  | infinite signed => cases signed <;> rfl
  | @number _ _ negative q m signed numeral rounded =>
    obtain ⟨notInf, notInfinity, notNan⟩ := numeral.not_word
    obtain ⟨m', read, rounded'⟩ := numeral.read
    rw [read?, signed.split numeral]
    simp only [notInf, notInfinity, notNan, or_self, if_false, read, Option.map_some,
      rounded.unique rounded']

/-- A text is read as one double. -/
theorem ReadAs.unique (first : ReadAs s x) (second : ReadAs s y) : x = y :=
  Option.some.inj (first.read.symm.trans second.read)

theorem ReadAs.eq_iff (read : ReadAs s x) : ReadAs s y ↔ y = x :=
  ⟨fun other => other.unique read, fun same => same ▸ read⟩

end RedisClient.Binary64
