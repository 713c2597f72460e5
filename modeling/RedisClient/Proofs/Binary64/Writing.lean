import RedisClient.Binary64.Format
import RedisClient.Proofs.Binary64.Reading

/-!
# Writing doubles exactly

The decimal that is found for a magnitude is rounded to this magnitude (`isNearest_shortest`), and each
format lays it out as a numeral of the same number (`writeMagnitude_denotes`). So the text of a double
that is a number is read as this double, in every format (`write_readAs`).
-/

namespace RedisClient.Binary64

open Text (Numeral SignedNumeral)

variable {ds : List Char} {n m : Nat} {k : Int} {x : Binary64}

/-! ## The shortest decimal -/

def Decimal.value (d : Decimal) : ℚ := d.digits * 10 ^ d.exponent

/-- A decimal on a grid is taken only if it is rounded to the magnitude. -/
theorem isNearest_onGrid {tie : Tie} {d : Decimal} (found : onGrid? tie m k = some d) :
    IsNearest d.value m := by
  have back {n : Nat} (same : (ofDecimal n k == m) = true) : IsNearest (Decimal.value ⟨n, k⟩) m :=
    eq_of_beq same ▸ isNearest_ofDecimal n k
  obtain ⟨first, second, tried⟩ : ∃ first second, onGrid? tie m k =
      if ofDecimal first k == m then some ⟨first, k⟩
      else if ofDecimal second k == m then some ⟨second, k⟩ else none := ⟨_, _, rfl⟩
  rw [tried] at found
  split at found
  · rename_i same
    exact Option.some.inj found ▸ back same
  · split at found
    · rename_i same
      exact Option.some.inj found ▸ back same
    · cases found

/-- The decimal at the end of the search is the exact one. -/
theorem exact_value (m : Nat) : Decimal.value ⟨units m * 5 ^ 1074, -1074⟩ = worth m := by
  have power (n : Nat) : ((5 ^ n : Nat) : ℚ) * (10 ^ n)⁻¹ = (2 ^ n)⁻¹ := by
    have ten : (10 : ℚ) ^ n = 5 ^ n * 2 ^ n := by rw [← mul_pow]; norm_num
    have five : (5 : ℚ) ^ n ≠ 0 := by positivity
    rw [ten, mul_inv]
    push_cast
    rw [← mul_assoc, mul_inv_cancel₀ five, one_mul]
  have exponent : (10 : ℚ) ^ (-1074 : Int) = (10 ^ 1074)⁻¹ := by
    rw [zpow_neg]
    rfl
  rw [Decimal.value, worth, exponent, Nat.cast_mul, mul_assoc, power 1074, div_eq_mul_inv]

theorem isNearest_search (tie : Tie) (bound : m ≤ infinite) (leading : Int) (fuel : Nat) :
    IsNearest (search tie m leading fuel).value m := by
  induction fuel with
  | zero =>
    rw [search, exact_value]
    exact isNearest_worth bound
  | succ fuel ih =>
    rw [search]
    split
    · rename_i found
      exact isNearest_onGrid found
    · exact ih

/-- A zero less among the digits is a power of ten more. -/
theorem Decimal.dropZeros_value (fuel : Nat) (d : Decimal) : (d.dropZeros fuel).value = d.value := by
  induction fuel generalizing d with
  | zero => rfl
  | succ fuel ih =>
    rw [dropZeros]
    split
    · rename_i zero
      have digits : (d.digits : ℚ) = (d.digits / 10 : Nat) * 10 := by
        exact_mod_cast (Nat.div_mul_cancel (Nat.dvd_of_mod_eq_zero zero.2)).symm
      rw [ih, Decimal.value, Decimal.value, zpow_add_one₀ (by norm_num), mul_comm _ (10 : ℚ),
        ← mul_assoc, ← digits]
    · rfl

/-- The decimal for a magnitude is rounded to it. -/
theorem isNearest_shortest (tie : Tie) (bound : m ≤ infinite) : IsNearest (shortest tie m).value m := by
  rw [shortest]
  split
  · rename_i zero
    have value : Decimal.value ⟨0, 0⟩ = worth 0 := by
      rw [Decimal.value, worth_zero, Nat.cast_zero, zero_mul]
    rw [zero, value]
    exact isNearest_worth (Nat.zero_le _)
  · rw [Decimal.dropZeros_value]
    exact isNearest_search tie bound _ _

/-! ## Layout -/

/-- A numeral with a point keeps its number if the exponent makes up for the places after it. -/
theorem Positional.of_places {front back : List Char} (digits : Numeral (front ++ back) n)
    (places : k = -(back.length : Int)) : Positional (front ++ '.' :: back) (n * 10 ^ k) := by
  have value : (n : ℚ) * 10 ^ k = n / 10 ^ back.length := by
    rw [places, zpow_neg, zpow_natCast, div_eq_mul_inv]
  rw [value]
  exact .pointed digits

/-- A whole number keeps its number with the point and a zero after it. -/
theorem Positional.of_mark (mark : Bool) (digits : Numeral ds n) :
    Positional (ds ++ if mark then ['.', '0'] else []) n := by
  cases mark with
  | false =>
    rw [if_neg Bool.false_ne_true, List.append_nil]
    exact .whole digits
  | true =>
    have marked : Positional (ds ++ ['.', '0']) ((10 ^ 1 * n : Nat) * 10 ^ (-1 : Int)) :=
      .of_places (digits.zeros_after 1) rfl
    have value : ((10 ^ 1 * n : Nat) : ℚ) * 10 ^ (-1 : Int) = n := by
      rw [pow_one, Nat.cast_mul, Nat.cast_ofNat, zpow_neg_one, mul_comm (10 : ℚ), mul_assoc,
        mul_inv_cancel₀ (by norm_num), mul_one]
    rwa [value] at marked

/-- Digits in full denote the decimal, wherever the point falls. -/
theorem inFull_positional (f : Format) (digits : Numeral ds n) :
    Positional (f.inFull ds (ds.length + k)) (n * 10 ^ k) := by
  rw [Format.inFull]
  split
  · -- the point stands before the digits
    have padded : Numeral (['0'] ++ (List.replicate (-(ds.length + k)).toNat '0' ++ ds)) n :=
      (digits.zeros_before _).zeros_before 1
    exact .of_places padded (by simp only [List.length_append, List.length_replicate]; omega)
  · split
    · -- the point stands behind the digits
      obtain ⟨places, rfl⟩ := Int.eq_ofNat_of_zero_le (by omega : 0 ≤ k)
      have count : ((ds.length : Int) + places).toNat - ds.length = places := by omega
      have value : (n : ℚ) * 10 ^ (places : Int) = (10 ^ places * n : Nat) := by
        rw [zpow_natCast, mul_comm]
        push_cast
        rfl
      rw [count, value]
      exact .of_mark f.wholeMark (digits.zeros_after places)
    · -- the point stands among the digits
      have cut : Numeral (ds.take (ds.length + k).toNat ++ ds.drop (ds.length + k).toNat) n := by
        rwa [List.take_append_drop]
      exact .of_places cut (by rw [List.length_drop]; omega)

/-- The exponent of a text. -/
theorem exponent_signed (plusSign : Bool) (exponent : Int) :
    SignedNumeral ((if exponent < 0 then ['-'] else if plusSign then ['+'] else []) ++
      Nat.toDigits 10 exponent.natAbs) exponent := by
  have numeral := Text.numeral_toDigits exponent.natAbs
  split
  · have negated : exponent = -(exponent.natAbs : Int) := by omega
    rw [negated, Int.natAbs_neg, Int.natAbs_natCast]
    exact .minus numeral
  · have positive : exponent = (exponent.natAbs : Int) := by omega
    split <;> rw [positive, Int.natAbs_natCast]
    · exact .plus numeral
    · exact .plain numeral

/-- A significand and an exponent denote the decimal. -/
theorem withExponent_denotes (f : Format) (digits : Numeral ds n) :
    Denotes (f.withExponent ds (ds.length + k - 1)) (n * 10 ^ k) := by
  have signed := exponent_signed f.plusSign (ds.length + k - 1)
  have ten : (10 : ℚ) ≠ 0 := by norm_num
  simp only [Format.withExponent, List.append_assoc, List.cons_append]
  rcases ds with _ | ⟨first, _ | ⟨second, rest⟩⟩
  · exact absurd rfl digits.nonempty
  · have value : ([first].length : Int) + k - 1 = k := by
      rw [List.length_singleton]
      omega
    rw [value] at signed ⊢
    exact .scaled (.whole digits) (.inl rfl) signed
  · have cut : Numeral ([first] ++ second :: rest) n := digits
    have significand : Positional (first :: '.' :: second :: rest)
        (n * 10 ^ (-((second :: rest).length : Int))) := .of_places cut rfl
    have value : (n : ℚ) * 10 ^ k = n * 10 ^ (-((second :: rest).length : Int)) *
        10 ^ (((first :: second :: rest).length : Int) + k - 1) := by
      rw [mul_assoc, ← zpow_add₀ ten]
      congr 2
      simp only [List.length_cons]
      omega
    rw [value]
    exact .scaled significand (.inl rfl) signed

/-- The text of a magnitude denotes its decimal. -/
theorem writeMagnitude_denotes (f : Format) (m : Nat) :
    Denotes (f.writeMagnitude m) (shortest f.tie m).value := by
  have digits := Text.numeral_toDigits (shortest f.tie m).digits
  rw [Format.writeMagnitude]
  split
  · exact .positional (inFull_positional f digits)
  · split
    · exact .positional (inFull_positional f digits)
    · exact withExponent_denotes f digits

/-! ## Doubles -/

theorem ofMagnitude_negative_magnitude (x : Binary64) : ofMagnitude x.negative x.magnitude = x := by
  obtain ⟨bits⟩ := x
  have fits : bits.toNat < 2 ^ 64 := bits.toNat_lt
  rw [ofMagnitude, Binary64.mk.injEq, ← UInt64.toNat_inj, UInt64.toNat_ofNat']
  simp only [negative, magnitude, decide_eq_true_eq]
  split <;> omega

/-- The text of a double is read as this double. -/
theorem write_readAs (f : Format) (number : x.isNaN = false) : ReadAs (f.write x).toList x := by
  have signed : SignText (if x.negative then ['-'] else []) x.negative := by
    cases x.negative with
    | false => exact .none
    | true => exact .minus
  have bound : x.magnitude ≤ infinite := by
    rw [isNaN, decide_eq_false_iff_not] at number
    exact Nat.not_lt.1 number
  rw [Format.write, number, if_neg Bool.false_ne_true, String.toList_ofList]
  have same := ofMagnitude_negative_magnitude x
  cases beyond : x.isInfinite with
  | true =>
    have infinite : x.magnitude = infinite := eq_of_beq beyond
    have read : ReadAs _ (infinity x.negative) := .infinite signed
    rwa [infinity, ← infinite, same] at read
  | false =>
    have read : ReadAs _ (ofMagnitude x.negative x.magnitude) :=
      .number signed (writeMagnitude_denotes f x.magnitude) (isNearest_shortest f.tie bound)
    rwa [same] at read

end RedisClient.Binary64
