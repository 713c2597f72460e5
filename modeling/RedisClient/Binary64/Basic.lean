/-!
# Doubles as bit patterns

A double is its 64 bits: a sign, and a magnitude below `2^63`. The magnitudes of the finite
doubles count them upwards from zero, the next one is infinity, and those above are not numbers.
A finite magnitude stands for `significand · 2^shift` units of `2^-1074`.
-/

namespace RedisClient

-- A power is the core library's, whatever else a module imports.
attribute [instance (2000), default_instance 20000] instPowNat

/-- A double, as the bits of its interchange format. -/
structure Binary64 where
  bits : UInt64
deriving DecidableEq, Repr

namespace Binary64

def negative (x : Binary64) : Bool := 2 ^ 63 ≤ x.bits.toNat

/-- The bits below the sign. -/
def magnitude (x : Binary64) : Nat := x.bits.toNat % 2 ^ 63

/-- The magnitude of infinity. -/
def infinite : Nat := 2047 * 2 ^ 52

def ofMagnitude (negative : Bool) (magnitude : Nat) : Binary64 :=
  ⟨UInt64.ofNat (magnitude % 2 ^ 63 + if negative then 2 ^ 63 else 0)⟩

/-- The quiet NaN with the sign bit clear. -/
def nan : Binary64 := ofMagnitude false (2047 * 2 ^ 52 + 2 ^ 51)

def infinity (negative : Bool) : Binary64 := ofMagnitude negative infinite

def isNaN (x : Binary64) : Bool := infinite < x.magnitude

def isInfinite (x : Binary64) : Bool := x.magnitude == infinite

def negate (x : Binary64) : Binary64 := ofMagnitude (!x.negative) x.magnitude

/-- The integer significand of a finite magnitude. -/
def significand (magnitude : Nat) : Nat :=
  if magnitude < 2 ^ 52 then magnitude else 2 ^ 52 + magnitude % 2 ^ 52

/-- The power of two of a finite magnitude, counted in units of `2^-1074`. The magnitudes below
`2^52` share the power of those after them. -/
def shift (magnitude : Nat) : Nat := magnitude / 2 ^ 52 - 1

/-- How many units of `2^-1074` a finite magnitude is worth. -/
def units (magnitude : Nat) : Nat := significand magnitude * 2 ^ shift magnitude

end Binary64

end RedisClient
