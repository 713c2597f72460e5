import RedisClient.Binary64.Rounding

/-!
# Shortest decimals

`shortest` finds the decimal with the fewest digits that rounds back to a given finite magnitude;
among those with as few digits it takes the nearest. For each number of digits only the two
decimals next to the exact value need to be looked at.
-/

namespace RedisClient.Binary64

/-- The decimal `digits · 10^exponent`. -/
structure Decimal where
  digits : Nat
  exponent : Int
deriving DecidableEq, Repr

/-- Which of two decimals equally near is taken. -/
inductive Tie
  | even | up
deriving DecidableEq, Repr

/-- How many decimal digits a natural has; zero has none. -/
def digitCount (n : Nat) : Nat := if n = 0 then 0 else (Nat.toDigits 10 n).length

/-- The exponent of the leading digit of `num / den`, which is above zero. -/
def leadingExponent (num den : Nat) : Int :=
  if den ≤ num then (digitCount (num / den) : Int) - 1
  else -(digitCount ((den - 1) / num) : Int)

/-- A quotient on the grid of multiples of `10^exponent`, as a new quotient. -/
def onGrid (num den : Nat) (exponent : Int) : Nat × Nat :=
  if 0 ≤ exponent then (num, den * 10 ^ exponent.toNat)
  else (num * 10 ^ (-exponent).toNat, den)

/-- The best decimal with the given exponent that rounds back to `magnitude`: one of the two
multiples of `10^exponent` next to its value. -/
def onGrid? (tie : Tie) (magnitude : Nat) (exponent : Int) : Option Decimal :=
  let (num, den) := onGrid (units magnitude) (2 ^ 1074) exponent
  let low := num / den
  let back (n : Nat) : Bool := ofDecimal n exponent == magnitude
  let twice := 2 * (num % den)
  let lowNearer := twice < den || (twice == den && tie == .even && low % 2 == 0)
  let first := if lowNearer then low else low + 1
  let second := if lowNearer then low + 1 else low
  if back first then some ⟨first, exponent⟩
  else if back second then some ⟨second, exponent⟩
  else none

/-- The grids with `n` to 17 digits, coarsest first; `fuel` is how many are left. -/
def search (tie : Tie) (magnitude : Nat) (leading : Int) : Nat → Decimal
  | 0 => ⟨units magnitude * 5 ^ 1074, -1074⟩
  | fuel + 1 =>
    match onGrid? tie magnitude (leading - 16 + fuel) with
    | some d => d
    | none => search tie magnitude leading fuel

/-- The decimal without the zeros at the end of its digits; `fuel` bounds how many there are. -/
def Decimal.dropZeros : Nat → Decimal → Decimal
  | 0, d => d
  | fuel + 1, d =>
    if d.digits ≠ 0 ∧ d.digits % 10 = 0 then dropZeros fuel ⟨d.digits / 10, d.exponent + 1⟩ else d

/-- The shortest decimal that rounds back to a finite magnitude. Seventeen digits always do, so
the exact decimal that would follow them is never reached. -/
def shortest (tie : Tie) (magnitude : Nat) : Decimal :=
  if magnitude = 0 then ⟨0, 0⟩
  else
    let d := search tie magnitude (leadingExponent (units magnitude) (2 ^ 1074)) 17
    d.dropZeros (digitCount d.digits)

end RedisClient.Binary64
