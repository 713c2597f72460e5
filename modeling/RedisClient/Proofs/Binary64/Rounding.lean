import Mathlib.Algebra.Order.Field.Rat
import Mathlib.Tactic.Linarith
import Mathlib.Tactic.NormNum
import Mathlib.Tactic.Positivity
import RedisClient.Binary64.Rounding

/-!
# Rounding, in exact rationals

A magnitude is worth a rational number; infinity counts as the power of two after the greatest
double. `IsNearest` is rounding to the nearest, with ties to even: no other magnitude is preferred,
because each is worth something farther away, or as far and then the magnitude is even. A number has
only one nearest magnitude (`IsNearest.unique`). The function `nearest` computes it for a quotient
(`isNearest_nearest`), and `ofDecimal` for a decimal of any length (`isNearest_ofDecimal`).
-/

namespace RedisClient.Binary64

variable {m n k c den : Nat} {q : ℚ}

/-! ## Significands and shifts -/

theorem significand_lt (m : Nat) : significand m < 2 ^ 53 := by
  rw [significand]
  split <;> omega

/-- Only the magnitudes that share the least power of two have fewer than 53 bits. -/
theorem significand_normal (m : Nat) : 2 ^ 52 ≤ significand m ∨ shift m = 0 := by
  rw [significand, shift]
  split <;> omega

theorem magnitude_eq (m : Nat) : shift m * 2 ^ 52 + significand m = m := by
  rw [significand, shift]
  split <;> omega

/-- A significand may also be the power of two after those of 53 bits: the magnitude is then the next
one's least. -/
theorem units_eq (normal : 2 ^ 52 ≤ c ∨ k = 0) (small : c ≤ 2 ^ 53) :
    units (k * 2 ^ 52 + c) = c * 2 ^ k := by
  rcases Nat.lt_or_ge c (2 ^ 52) with subnormal | large
  · obtain rfl : k = 0 := by omega
    have first : shift (0 * 2 ^ 52 + c) = 0 := by rw [shift]; omega
    rw [units, first, significand, if_pos (by omega)]
    omega
  · rw [units, significand, if_neg (by omega)]
    rcases Nat.lt_or_eq_of_le small with within | rfl
    · have power : shift (k * 2 ^ 52 + c) = k := by rw [shift]; omega
      have digits : 2 ^ 52 + (k * 2 ^ 52 + c) % 2 ^ 52 = c := by omega
      rw [power, digits]
    · have power : shift (k * 2 ^ 52 + 2 ^ 53) = k + 1 := by rw [shift]; omega
      have digits : 2 ^ 52 + (k * 2 ^ 52 + 2 ^ 53) % 2 ^ 52 = 2 ^ 52 := by omega
      rw [power, digits, Nat.pow_succ]
      omega

theorem units_succ (m : Nat) : units (m + 1) = units m + 2 ^ shift m := by
  have normal := significand_normal m
  have small := significand_lt m
  have next : m + 1 = shift m * 2 ^ 52 + (significand m + 1) := by
    rw [← Nat.add_assoc, magnitude_eq]
  have above : 2 ^ 52 ≤ significand m + 1 ∨ shift m = 0 := normal.imp_left Nat.le_succ_of_le
  rw [next, units_eq above small, units, Nat.succ_mul]

theorem units_strictMono : StrictMono units :=
  strictMono_nat_of_lt_succ fun m => by
    rw [units_succ]
    exact Nat.lt_add_of_pos_right (Nat.two_pow_pos _)

/-- Each magnitude is on the grid of a power of two, or below the significands of 53 bits on it. -/
theorem units_grid (k m : Nat) :
    (∃ c, units m = c * 2 ^ k) ∨ units m < 2 ^ 52 * 2 ^ k ∧ 0 < k := by
  rcases Nat.lt_or_ge (shift m) k with finer | coarser
  · refine .inr ⟨?_, Nat.zero_lt_of_lt finer⟩
    calc units m < 2 ^ 53 * 2 ^ shift m :=
          Nat.mul_lt_mul_of_pos_right (significand_lt m) (Nat.two_pow_pos _)
      _ = 2 ^ 52 * 2 ^ (shift m + 1) := by rw [Nat.pow_succ]; omega
      _ ≤ 2 ^ 52 * 2 ^ k := Nat.mul_le_mul_left _ (Nat.pow_le_pow_right two_pos finer)
  · refine .inl ⟨significand m * 2 ^ (shift m - k), ?_⟩
    rw [Nat.mul_assoc, ← Nat.pow_add, Nat.sub_add_cancel coarser, units]

/-! ## What a magnitude is worth -/

theorem cast_two_pow (k : Nat) : ((2 ^ k : Nat) : ℚ) = 2 ^ k := by
  push_cast
  rfl

/-- The number that a magnitude stands for. -/
def worth (m : Nat) : ℚ := units m / 2 ^ 1074

theorem worth_strictMono : StrictMono worth := fun m n less => by
  have less : (units m : ℚ) < units n := Nat.cast_lt.2 (units_strictMono less)
  exact div_lt_div_of_pos_right less (by positivity)

theorem worth_zero : worth 0 = 0 := by
  simp [worth, units, significand]

/-- What is at the distance `d` is preferred to what is at the distance `d'`: it is nearer, or it is as
near and its number is even. -/
def Preferred (d d' : ℚ) (m : Nat) : Prop := d < d' ∨ d = d' ∧ m % 2 = 0

theorem Preferred.le {d d' : ℚ} (h : Preferred d d' m) : d ≤ d' :=
  h.elim le_of_lt fun tie => tie.1.le

theorem Preferred.even {d d' : ℚ} (h : Preferred d d' m) (back : d' ≤ d) : m % 2 = 0 :=
  (h.resolve_left back.not_gt).2

/-- The number is rounded to the magnitude: up to infinity no other one is preferred. -/
structure IsNearest (q : ℚ) (m : Nat) : Prop where
  bound : m ≤ infinite
  preferred : ∀ n ≤ infinite, n ≠ m → Preferred |worth m - q| |worth n - q| m

theorem abs_lt_of_between {a b c : ℚ} (low : a < b) (high : b < c) (same : |a - q| = |c - q|) :
    |b - q| < |a - q| := by
  rw [abs_lt]
  rcases abs_cases (a - q) with ⟨eq, _⟩ | ⟨eq, _⟩ <;>
  rcases abs_cases (c - q) with ⟨eq', _⟩ | ⟨eq', _⟩ <;>
  rw [eq, eq'] at same <;> rw [eq] <;> constructor <;> linarith

/-- Two magnitudes to which a number is rounded are equally near and both even. So they are no
neighbours, and the one after the first is nearer. -/
theorem IsNearest.unique (first : IsNearest q m) (second : IsNearest q n) : m = n := by
  wlog less : m < n generalizing m n
  · rcases Nat.lt_or_eq_of_le (Nat.not_lt.1 less) with greater | same
    · exact (this second first greater).symm
    · exact same.symm
  have forth := first.preferred n second.bound less.ne'
  have back := second.preferred m first.bound less.ne
  have evenFirst := forth.even back.le
  have evenSecond := back.even forth.le
  have between : m + 1 < n := by omega
  have next := first.preferred (m + 1) (between.le.trans second.bound) (by omega)
  have nearer := abs_lt_of_between (worth_strictMono m.lt_succ_self) (worth_strictMono between)
    (le_antisymm forth.le back.le)
  exact absurd next.le nearer.not_ge

theorem isNearest_infinite (large : worth infinite ≤ q) : IsNearest q infinite where
  bound := Nat.le_refl _
  preferred n bound other := by
    have less : worth n < worth infinite := worth_strictMono (Nat.lt_of_le_of_ne bound other)
    left
    rw [abs_of_nonpos (by linarith), abs_of_nonpos (by linarith)]
    linarith

/-- Less than half of the least magnitude above zero. -/
theorem isNearest_zero (positive : 0 ≤ q) (small : q < worth 1 / 2) : IsNearest q 0 where
  bound := Nat.zero_le _
  preferred n _ other := by
    have least : worth 1 ≤ worth n := worth_strictMono.monotone (Nat.pos_of_ne_zero other)
    left
    rw [worth_zero, abs_of_nonpos (by linarith), abs_of_nonneg (by linarith)]
    linarith

/-- What a magnitude is worth is rounded to it. -/
theorem isNearest_worth (bound : m ≤ infinite) : IsNearest (worth m) m where
  bound := bound
  preferred n _ other := by
    left
    rw [sub_self, abs_zero, abs_pos, sub_ne_zero]
    exact worth_strictMono.injective.ne other

/-! ## Quotients -/

theorem roundQuotient_bounds (num den : Nat) :
    num / den ≤ roundQuotient num den ∧ roundQuotient num den ≤ num / den + 1 := by
  simp only [roundQuotient]
  split_ifs <;> omega

/-- A quotient is rounded by less than a half, or by a half and then to an even number. -/
theorem roundQuotient_error (num : Nat) (positive : 0 < den) :
    |(roundQuotient num den : ℚ) - num / den| < 1 / 2 ∨
      |(roundQuotient num den : ℚ) - num / den| = 1 / 2 ∧ roundQuotient num den % 2 = 0 := by
  have denominator : (0 : ℚ) < den := Nat.cast_pos.2 positive
  have quotient : (num : ℚ) / den = (num / den : Nat) + (num % den : Nat) / den := by
    rw [div_eq_iff denominator.ne', add_mul, div_mul_cancel₀ _ denominator.ne']
    exact_mod_cast (Nat.div_add_mod' num den).symm
  have rest : (0 : ℚ) ≤ (num % den : Nat) / den := by positivity
  rw [quotient]
  simp only [roundQuotient]
  split
  · rename_i below
    have half : ((num % den : Nat) : ℚ) / den < 1 / 2 := by
      rw [div_lt_div_iff₀ denominator two_pos]
      exact_mod_cast (by omega : num % den * 2 < 1 * den)
    left
    rw [sub_add_cancel_left, abs_neg, abs_of_nonneg rest]
    exact half
  · split
    · rename_i above
      have half : 1 / 2 < ((num % den : Nat) : ℚ) / den := by
        rw [div_lt_div_iff₀ two_pos denominator]
        exact_mod_cast (by omega : 1 * den < num % den * 2)
      have whole : ((num % den : Nat) : ℚ) / den < 1 := by
        rw [div_lt_one denominator]
        exact_mod_cast Nat.mod_lt num positive
      left
      rw [Nat.cast_succ, add_sub_add_left_eq_sub, abs_of_pos (by linarith)]
      linarith
    · have half : ((num % den : Nat) : ℚ) / den = 1 / 2 := by
        rw [div_eq_div_iff denominator.ne' two_ne_zero]
        exact_mod_cast (by omega : num % den * 2 = 1 * den)
      right
      rw [half]
      split
      · rename_i even
        refine ⟨?_, even⟩
        rw [sub_add_cancel_left, abs_neg, abs_of_pos one_half_pos]
      · rename_i odd
        refine ⟨?_, by omega⟩
        rw [Nat.cast_succ, add_sub_add_left_eq_sub]
        norm_num

theorem one_le_distances (z : ℚ) (other : c ≠ n) : 1 ≤ |(c : ℚ) - z| + |(n : ℚ) - z| := by
  have apart : (1 : ℤ) ≤ |(c : ℤ) - n| := Int.one_le_abs (sub_ne_zero.2 (Nat.cast_injective.ne other))
  calc (1 : ℚ) ≤ |(c : ℚ) - n| := by exact_mod_cast apart
    _ ≤ |(c : ℚ) - z| + |z - n| := abs_sub_le _ _ _
    _ = |(c : ℚ) - z| + |(n : ℚ) - z| := by rw [abs_sub_comm z]

/-- No other natural is preferred to the rounded quotient. -/
theorem roundQuotient_preferred {num : Nat} (positive : 0 < den)
    (other : c ≠ roundQuotient num den) :
    Preferred |(roundQuotient num den : ℚ) - num / den| |(c : ℚ) - num / den|
      (roundQuotient num den) := by
  have apart := one_le_distances (num / den) other
  rcases roundQuotient_error num positive with near | ⟨half, even⟩
  · left
    linarith
  · have near : |(roundQuotient num den : ℚ) - num / den| ≤ |(c : ℚ) - num / den| := by linarith
    exact (lt_or_eq_of_le near).imp_right fun same => ⟨same, even⟩

theorem roundQuotient_closest (num c : Nat) (positive : 0 < den) :
    |(roundQuotient num den : ℚ) - num / den| ≤ |(c : ℚ) - num / den| := by
  by_cases same : c = roundQuotient num den
  · rw [same]
  · exact (roundQuotient_preferred positive same).le

/-! ## The nearest magnitude -/

/-- The magnitude that a quotient is rounded to if there were no infinity. `scaled` is the numerator
in units of the least magnitude. -/
def unbounded (scaled den : Nat) : Nat :=
  let k := (scaled / den).log2 - 52
  k * 2 ^ 52 + roundQuotient scaled (den * 2 ^ k)

theorem nearest_eq (num den : Nat) :
    nearest num den = min (unbounded (num * 2 ^ 1074) den) infinite := rfl

/-- The power of two is chosen so that the quotient in its units has 53 bits, unless it is the least
power of two. -/
theorem quotient_normal (scaled den : Nat) (k : Nat) (power : k = (scaled / den).log2 - 52) :
    scaled / (den * 2 ^ k) < 2 ^ 53 ∧ (2 ^ 52 ≤ scaled / (den * 2 ^ k) ∨ k = 0) := by
  rw [← Nat.div_div_eq_div_mul]
  constructor
  · have bits : scaled / den < 2 ^ ((scaled / den).log2 + 1) := Nat.lt_log2_self
    apply Nat.div_lt_of_lt_mul
    rw [← Nat.pow_add]
    exact Nat.lt_of_lt_of_le bits (Nat.pow_le_pow_right two_pos (by omega))
  · rcases Nat.eq_zero_or_pos k with zero | positive
    · exact .inr zero
    · have nonzero : scaled / den ≠ 0 := by
        intro zero
        rw [zero, Nat.log2_zero] at power
        omega
      have bits : 2 ^ (scaled / den).log2 ≤ scaled / den := Nat.log2_self_le nonzero
      left
      rw [Nat.le_div_iff_mul_le (Nat.two_pow_pos k), ← Nat.pow_add]
      exact Nat.le_trans (Nat.pow_le_pow_right two_pos (by omega)) bits

/-- The distance of a multiple of a power of two, in units of this power. -/
theorem distance_multiple (c k num den : Nat) :
    |((c * 2 ^ k : Nat) : ℚ) - num / den| = |(c : ℚ) - num / (den * 2 ^ k : Nat)| * 2 ^ k := by
  have positive : (0 : ℚ) < 2 ^ k := by positivity
  have factor : ((c * 2 ^ k : Nat) : ℚ) - num / den =
      ((c : ℚ) - num / (den * 2 ^ k : Nat)) * 2 ^ k := by
    rw [sub_mul]
    push_cast
    rw [← div_div, div_mul_cancel₀ _ positive.ne']
  rw [factor, abs_mul, abs_of_pos positive]

/-- In units of the least magnitude: magnitudes on the grid of the rounded quotient are multiples of its
power of two, and among the multiples it is preferred. The others are below the least significand of 53
bits, which is a multiple that the quotient is not below. -/
theorem unbounded_units {scaled : Nat} (positive : 0 < den) (other : n ≠ unbounded scaled den) :
    Preferred |(units (unbounded scaled den) : ℚ) - scaled / den| |(units n : ℚ) - scaled / den|
      (unbounded scaled den) := by
  obtain ⟨k, power⟩ : ∃ k, k = (scaled / den).log2 - 52 := ⟨_, rfl⟩
  obtain ⟨small, normal⟩ := quotient_normal scaled den k power
  obtain ⟨lower, upper⟩ := roundQuotient_bounds scaled (den * 2 ^ k)
  have shown : unbounded scaled den = k * 2 ^ 52 + roundQuotient scaled (den * 2 ^ k) := by
    rw [unbounded, power]
  have step : 0 < den * 2 ^ k := Nat.mul_pos positive (Nat.two_pow_pos k)
  have closest (c : Nat) := roundQuotient_closest scaled c step
  have preferred (c : Nat) (other : c ≠ roundQuotient scaled (den * 2 ^ k)) :=
    roundQuotient_preferred step other
  generalize roundQuotient scaled (den * 2 ^ k) = r at *
  have rounded : units (k * 2 ^ 52 + r) = r * 2 ^ k := units_eq (by omega) (by omega)
  rw [shown] at other ⊢
  rw [rounded, distance_multiple]
  have unit : (0 : ℚ) < 2 ^ k := by positivity
  by_cases multiple : ∃ c, units n = c * 2 ^ k
  · obtain ⟨c, multiple⟩ := multiple
    have different : c ≠ r := by
      rintro rfl
      exact other (units_strictMono.injective (multiple.trans rounded.symm))
    rw [multiple, distance_multiple]
    rcases preferred c different with nearer | ⟨same, even⟩
    · exact .inl (mul_lt_mul_of_pos_right nearer unit)
    · exact .inr ⟨by rw [same], by omega⟩
  · obtain ⟨short, above⟩ := (units_grid k n).resolve_left multiple
    have long : ((2 ^ 52 * 2 ^ k : Nat) : ℚ) ≤ scaled / den := by
      have floor := normal.resolve_right above.ne'
      rw [Nat.le_div_iff_mul_le step] at floor
      rw [le_div_iff₀ (Nat.cast_pos.2 positive)]
      exact_mod_cast (by linarith : 2 ^ 52 * 2 ^ k * den ≤ scaled)
    have below : (units n : ℚ) < (2 ^ 52 * 2 ^ k : Nat) := Nat.cast_lt.2 short
    left
    calc |(r : ℚ) - scaled / (den * 2 ^ k : Nat)| * 2 ^ k
        ≤ |((2 ^ 52 : Nat) : ℚ) - scaled / (den * 2 ^ k : Nat)| * 2 ^ k :=
          mul_le_mul_of_nonneg_right (closest _) unit.le
      _ = |((2 ^ 52 * 2 ^ k : Nat) : ℚ) - scaled / den| := (distance_multiple ..).symm
      _ < |(units n : ℚ) - scaled / den| := by
          rw [abs_of_nonpos (by linarith), abs_of_neg (by linarith)]
          linarith

theorem unbounded_preferred (num : Nat) (positive : 0 < den)
    (other : n ≠ unbounded (num * 2 ^ 1074) den) :
    Preferred |worth (unbounded (num * 2 ^ 1074) den) - num / den| |worth n - num / den|
      (unbounded (num * 2 ^ 1074) den) := by
  have least : (0 : ℚ) < 2 ^ 1074 := by positivity
  have value : (num : ℚ) / den = ((num * 2 ^ 1074 : Nat) : ℚ) / den / 2 ^ 1074 := by
    rw [Nat.cast_mul, cast_two_pow 1074, mul_div_right_comm, mul_div_cancel_right₀ _ least.ne']
  have distance (n : Nat) : |worth n - num / den| =
      |(units n : ℚ) - (num * 2 ^ 1074 : Nat) / den| / 2 ^ 1074 := by
    rw [worth, value, ← sub_div, abs_div, abs_of_pos least]
  rw [Preferred, distance, distance, div_lt_div_iff_of_pos_right least, div_left_inj' least.ne']
  exact unbounded_units positive other

/-- Quotients are rounded to the nearest magnitude. -/
theorem isNearest_nearest (num : Nat) (positive : 0 < den) :
    IsNearest (num / den) (nearest num den) := by
  rw [nearest_eq]
  rcases le_or_gt (unbounded (num * 2 ^ 1074) den) infinite with within | beyond
  · rw [Nat.min_eq_left within]
    exact ⟨within, fun n _ other => unbounded_preferred num positive other⟩
  · rw [Nat.min_eq_right beyond.le]
    have closer := (unbounded_preferred num positive beyond.ne).le
    have far : worth infinite < worth (unbounded (num * 2 ^ 1074) den) := worth_strictMono beyond
    apply isNearest_infinite
    by_contra below
    rw [abs_of_pos (by linarith), abs_of_pos (by linarith)] at closer
    linarith

/-! ## Decimals -/

theorem two_pow_le_ten_pow (h : k ≤ 3 * n) : (2 : ℚ) ^ k ≤ 10 ^ n :=
  calc (2 : ℚ) ^ k ≤ 2 ^ (3 * n) := pow_le_pow_right₀ (by norm_num) h
    _ = (2 ^ 3) ^ n := pow_mul 2 3 n
    _ ≤ 10 ^ n := pow_le_pow_left₀ (by norm_num) (by norm_num) n

theorem worth_infinite : worth infinite = 2 ^ 1024 := by
  have binade : infinite = 2046 * 2 ^ 52 + 2 ^ 52 := by rw [infinite]
  rw [worth, binade, units_eq (.inl le_rfl) (by omega), ← Nat.pow_add 2 52 2046,
    cast_two_pow (52 + 2046), div_eq_iff (by positivity), ← pow_add]

theorem worth_one : worth 1 = 1 / 2 ^ 1074 := by
  simp [worth, units, significand, shift]

/-- The number of digits says between which powers of ten a number is. -/
theorem toDigits_bounds (nonzero : n ≠ 0) :
    10 ^ ((Nat.toDigits 10 n).length - 1) ≤ n ∧ n < 10 ^ (Nat.toDigits 10 n).length := by
  have some : 0 < (Nat.toDigits 10 n).length := Nat.length_toDigits_pos
  refine ⟨?_, (Nat.length_toDigits_le_iff (by omega) some).1 le_rfl⟩
  rcases Nat.eq_zero_or_pos ((Nat.toDigits 10 n).length - 1) with single | several
  · rw [single]
    omega
  · rw [← not_lt, ← Nat.length_toDigits_le_iff (by omega) several]
    omega

/-- The places before the point say between which powers of ten a decimal is. -/
theorem decimal_bounds (nonzero : n ≠ 0) (exponent : Int) :
    (10 : ℚ) ^ ((Nat.toDigits 10 n).length + exponent - 1) ≤ n * 10 ^ exponent ∧
      (n : ℚ) * 10 ^ exponent < 10 ^ ((Nat.toDigits 10 n).length + exponent) := by
  have ten : (10 : ℚ) ≠ 0 := by norm_num
  have power : (0 : ℚ) < 10 ^ exponent := zpow_pos (by norm_num) _
  have some : 0 < (Nat.toDigits 10 n).length := Nat.length_toDigits_pos
  obtain ⟨least, less⟩ := toDigits_bounds nonzero
  generalize (Nat.toDigits 10 n).length = length at *
  have least : (10 : ℚ) ^ (length - 1) ≤ n := by exact_mod_cast least
  have less : (n : ℚ) < 10 ^ length := by exact_mod_cast less
  have before : (length : Int) + exponent - 1 = (length - 1 : Nat) + exponent := by omega
  rw [before, zpow_add₀ ten, zpow_add₀ ten, zpow_natCast, zpow_natCast]
  exact ⟨mul_le_mul_of_nonneg_right least power.le, mul_lt_mul_of_pos_right less power⟩

theorem worth_infinite_le {places : Int} (large : 400 ≤ places) : worth infinite ≤ 10 ^ places :=
  calc worth infinite = 2 ^ 1024 := worth_infinite
    _ ≤ 10 ^ 400 := two_pow_le_ten_pow (by omega)
    _ ≤ 10 ^ places := by
        rw [← zpow_natCast]
        exact zpow_le_zpow_right₀ (by norm_num) large

theorem le_half_worth_one {places : Int} (small : places ≤ -400) : 10 ^ places ≤ worth 1 / 2 :=
  calc (10 : ℚ) ^ places ≤ 10 ^ (-400 : Int) := zpow_le_zpow_right₀ (by norm_num) small
    _ = (10 ^ 400)⁻¹ := by rw [zpow_neg]; rfl
    _ ≤ (2 ^ 1075)⁻¹ := inv_anti₀ (by positivity) (two_pow_le_ten_pow (by omega))
    _ = worth 1 / 2 := by rw [worth_one, div_div, ← pow_succ, one_div]

/-- A decimal as a quotient of naturals. -/
theorem decimal_eq_div (n : Nat) (exponent : Int) : (n : ℚ) * 10 ^ exponent =
    if 0 ≤ exponent then ((n * 10 ^ exponent.toNat : Nat) : ℚ) / (1 : Nat)
    else n / (10 ^ (-exponent).toNat : Nat) := by
  split
  · rename_i whole
    obtain ⟨places, rfl⟩ := Int.eq_ofNat_of_zero_le whole
    rw [Int.toNat_natCast, zpow_natCast]
    push_cast
    rw [div_one]
  · rename_i fraction
    obtain ⟨places, negated⟩ := Int.eq_ofNat_of_zero_le (by omega : 0 ≤ -exponent)
    rw [negated, Int.toNat_natCast, ← neg_neg exponent, negated, zpow_neg, zpow_natCast,
      div_eq_mul_inv]
    push_cast
    rfl

/-- Decimals are rounded to the nearest magnitude. -/
theorem isNearest_ofDecimal (digits : Nat) (exponent : Int) :
    IsNearest (digits * 10 ^ exponent) (ofDecimal digits exponent) := by
  by_cases zero : digits = 0
  · rw [ofDecimal, if_pos (.inl zero), zero, Nat.cast_zero, zero_mul, ← worth_zero]
    exact isNearest_worth (Nat.zero_le _)
  obtain ⟨least, less⟩ := decimal_bounds zero exponent
  have positive : (0 : ℚ) ≤ digits * 10 ^ exponent :=
    le_trans (zpow_nonneg (by norm_num) _) least
  rw [ofDecimal]
  split
  · rename_i small
    have small := small.resolve_left zero
    exact isNearest_zero positive (less.trans_le (le_half_worth_one (by omega)))
  · split
    · rename_i large
      exact isNearest_infinite ((worth_infinite_le (by omega)).trans least)
    · rw [decimal_eq_div]
      split
      · exact isNearest_nearest _ Nat.one_pos
      · exact isNearest_nearest _ (Nat.pow_pos (by omega))

end RedisClient.Binary64
