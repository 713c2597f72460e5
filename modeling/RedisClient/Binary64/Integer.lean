import RedisClient.Binary64.Rounding

/-!
# Doubles and integers

A double becomes an integer by dropping its fraction; what lies outside of the integer type goes
to the nearest end of it, and what is no number to zero.
-/

namespace RedisClient.Binary64

def ofInt (n : Int) : Binary64 := ofMagnitude (n < 0) (ofNatural n.natAbs)

/-- The integer part of a double, no further than `least` and `greatest`. -/
def truncate (least greatest : Int) (x : Binary64) : Int :=
  if x.isNaN then 0
  else if x.isInfinite then if x.negative then least else greatest
  else
    let whole : Int := units x.magnitude / 2 ^ 1074
    max least (min greatest (if x.negative then -whole else whole))

end RedisClient.Binary64
