import RedisClient.Binary64.Basic

/-!
# Rounding to the nearest double

`nearest` rounds an exact quotient of naturals; of two neighbours equally near it takes the one
with the even significand, and what lies too far out becomes infinity. Products and quotients of
doubles are rounded exact ones.
-/

namespace RedisClient.Binary64

/-- The quotient rounded to the nearest natural, a half going to the even neighbour. -/
def roundQuotient (num den : Nat) : Nat :=
  let q := num / den
  let r := num % den
  if 2 * r < den then q
  else if den < 2 * r then q + 1
  else if q % 2 = 0 then q else q + 1

/-- The magnitude nearest to `num / den`. With `k` chosen so that the quotient has 53 bits in
units of `2^(k - 1074)`, the rounded quotient `q` is the significand of magnitude
`k · 2^52 + q`, also when rounding carries it to `2^53`. -/
def nearest (num den : Nat) : Nat :=
  let scaled := num * 2 ^ 1074
  let k := (scaled / den).log2 - 52
  min (k * 2 ^ 52 + roundQuotient scaled (den * 2 ^ k)) infinite

def ofNatural (n : Nat) : Nat := nearest n 1

def powerOfTen (n : Nat) : Nat := nearest (10 ^ n) 1

def product (a b : Nat) : Nat := nearest (units a * units b) (2 ^ 1074 * 2 ^ 1074)

/-- The quotient of two finite magnitudes, the second above zero. -/
def quotient (a b : Nat) : Nat := nearest (units a) (units b)

/-- The magnitude nearest to `digits · 10^exponent`. Outside of 400 places on either side of the
point the answer is known without computing the power. -/
def ofDecimal (digits : Nat) (exponent : Int) : Nat :=
  let places := ((Nat.toDigits 10 digits).length : Int) + exponent
  if digits = 0 ∨ places < -400 then 0
  else if 400 < places then infinite
  else if 0 ≤ exponent then nearest (digits * 10 ^ exponent.toNat) 1
  else nearest digits (10 ^ (-exponent).toNat)

end RedisClient.Binary64
