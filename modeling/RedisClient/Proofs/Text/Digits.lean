import Mathlib.Data.List.TakeWhile
import RedisClient.Text.Digits

/-!
# Reading numerals

`Numeral` says which texts are numerals of which numbers. The readers accept these and no others,
after an optional sign (`readNatural?_eq_some`, `readUnsigned?_eq_some`). The decimal notation of a
number is one of its numerals, so a number can be read off its notation (`readSigned?_toString`), and
different numbers have different notations (`toString_natural_inj`, `toString_integer_inj`).
-/

namespace RedisClient.Text

variable {s ds rest : List Char} {n m : Nat} {k : Int}

/-- The text is a numeral of the number: ASCII digits, of which the leading ones may be zeros. -/
structure Numeral (s : List Char) (n : Nat) : Prop where
  nonempty : s ≠ []
  digits : ∀ d ∈ s, d.isDigit = true
  value : Nat.ofDigitChars 10 s 0 = n

theorem digitsValue_eq (ds : List Char) : digitsValue ds = Nat.ofDigitChars 10 ds 0 := by
  rw [Nat.ofDigitChars_eq_foldl]
  rfl

theorem digitsValue_toDigits (n : Nat) : digitsValue (Nat.toDigits 10 n) = n := by
  rw [digitsValue_eq, Nat.ofDigitChars_ten_toDigits]

/-! ## What is read -/

theorem readNatural?_eq_some : readNatural? s = some n ↔ Numeral s n := by
  have readable : (!s.isEmpty && s.all Char.isDigit) = true ↔
      s ≠ [] ∧ ∀ d ∈ s, d.isDigit = true := by
    simp
  rw [readNatural?, Option.ite_none_right_eq_some, readable, Option.some.injEq, digitsValue_eq]
  exact ⟨fun ⟨⟨nonempty, digits⟩, value⟩ => ⟨nonempty, digits, value⟩,
    fun ⟨nonempty, digits, value⟩ => ⟨⟨nonempty, digits⟩, value⟩⟩

/-- A numeral does not begin with a sign. -/
theorem Numeral.not_sign {c : Char} {rest : List Char} (h : Numeral (c :: rest) n) :
    c ≠ '+' ∧ c ≠ '-' := by
  have digit := h.digits c List.mem_cons_self
  constructor <;>
  · rintro rfl
    cases digit

/-- Digits are taken off a text as far as they go. -/
theorem takeWhile_digits (digits : ∀ d ∈ ds, d.isDigit = true)
    (stop : ∀ c, rest.head? = some c → c.isDigit = false) :
    (ds ++ rest).takeWhile Char.isDigit = ds ∧ (ds ++ rest).dropWhile Char.isDigit = rest := by
  rw [List.takeWhile_append_of_pos digits, List.dropWhile_append_of_pos digits]
  cases rest with
  | nil => simp
  | cons c rest => simp [stop c rfl]

theorem readUnsigned?_of_ne_plus (h : ∀ digits, s ≠ '+' :: digits) :
    readUnsigned? s = readNatural? s := by
  rw [readUnsigned?]
  exact h

theorem Numeral.unsigned (h : Numeral s n) : readUnsigned? s = some n := by
  rw [readUnsigned?_of_ne_plus, readNatural?_eq_some.2 h]
  rintro digits rfl
  exact h.not_sign.1 rfl

theorem readUnsigned?_eq_some :
    readUnsigned? s = some n ↔ ∃ digits, (s = digits ∨ s = '+' :: digits) ∧ Numeral digits n := by
  constructor
  · intro read
    by_cases plus : ∃ digits, s = '+' :: digits
    · obtain ⟨digits, rfl⟩ := plus
      exact ⟨digits, .inr rfl, readNatural?_eq_some.1 read⟩
    · rw [readUnsigned?_of_ne_plus fun digits eq => plus ⟨digits, eq⟩] at read
      exact ⟨s, .inl rfl, readNatural?_eq_some.1 read⟩
  · rintro ⟨digits, rfl | rfl, numeral⟩
    · exact numeral.unsigned
    · exact readNatural?_eq_some.2 numeral

/-- The text is a numeral of the integer: an optional sign, and a numeral. -/
inductive SignedNumeral : List Char → Int → Prop
  | plain {s : List Char} {n : Nat} (numeral : Numeral s n) : SignedNumeral s n
  | plus {s : List Char} {n : Nat} (numeral : Numeral s n) : SignedNumeral ('+' :: s) n
  | minus {s : List Char} {n : Nat} (numeral : Numeral s n) : SignedNumeral ('-' :: s) (-(n : Int))

/-! ## Decimal notations -/

theorem numeral_toDigits (n : Nat) : Numeral (Nat.toDigits 10 n) n where
  nonempty := Nat.toDigits_ne_nil
  digits _ mem := Nat.isDigit_of_mem_toDigits (by omega) (by omega) mem
  value := Nat.ofDigitChars_ten_toDigits

theorem Numeral.signed (h : Numeral s n) : readSigned? s = some (n : Int) := by
  rw [readSigned?, h.unsigned]
  · rfl
  · rintro digits rfl
    exact h.not_sign.2 rfl

theorem SignedNumeral.read (h : SignedNumeral s k) : readSigned? s = some k := by
  cases h with
  | plain numeral => exact numeral.signed
  | plus numeral =>
    have read := readUnsigned?_eq_some.2 ⟨_, .inr rfl, numeral⟩
    rw [readSigned?, read]
    · rfl
    · rintro _ ⟨⟩
  | minus numeral =>
    rw [readSigned?, readNatural?_eq_some.2 numeral]
    rfl

/-- Zeros before a numeral mean nothing. -/
theorem Numeral.zeros_before (h : Numeral s n) (count : Nat) :
    Numeral (List.replicate count '0' ++ s) n where
  nonempty := List.append_ne_nil_of_right_ne_nil _ h.nonempty
  digits d mem := by
    rcases List.mem_append.1 mem with zero | digit
    · rw [List.eq_of_mem_replicate zero]
      rfl
    · exact h.digits d digit
  value := by
    rw [Nat.ofDigitChars_append, Nat.ofDigitChars_replicate_zero, Nat.mul_zero, h.value]

/-- Zeros after a numeral multiply by ten. -/
theorem Numeral.zeros_after (h : Numeral s n) (count : Nat) :
    Numeral (s ++ List.replicate count '0') (10 ^ count * n) where
  nonempty := List.append_ne_nil_of_left_ne_nil h.nonempty _
  digits d mem := by
    rcases List.mem_append.1 mem with digit | zero
    · exact h.digits d digit
    · rw [List.eq_of_mem_replicate zero]
      rfl
  value := by rw [Nat.ofDigitChars_append, h.value, Nat.ofDigitChars_replicate_zero]

/-- A number is read off its decimal notation. -/
theorem readSigned?_toString (k : Int) : readSigned? (toString k).toList = some k := by
  cases k with
  | ofNat n =>
    have written : (toString (Int.ofNat n)).toList = Nat.toDigits 10 n := Nat.toList_repr
    rw [written, (numeral_toDigits n).signed]
    rfl
  | negSucc n =>
    have written : (toString (Int.negSucc n)).toList = '-' :: Nat.toDigits 10 (n + 1) := by
      have sign : toString (Int.negSucc n) = "-" ++ (n + 1).repr := rfl
      rw [sign, String.toList_append, Nat.toList_repr]
      rfl
    have magnitude := readNatural?_eq_some.2 (numeral_toDigits (n + 1))
    rw [written, readSigned?, magnitude]
    rfl

theorem toString_integer_inj {k l : Int} (same : toString k = toString l) : k = l := by
  have read := readSigned?_toString k
  rw [same, readSigned?_toString] at read
  exact (Option.some.inj read).symm

theorem toString_natural_inj (same : toString n = toString m) : n = m :=
  Int.ofNat.inj (toString_integer_inj same)

end RedisClient.Text
