/-!
# Durations

A duration is a whole number of nanoseconds, below `2^64` seconds. Adding two durations can
leave that range, so addition may have no result.
-/

namespace RedisClient

-- A power is the core library's, whatever else a module imports.
attribute [instance (2000), default_instance 20000] instPowNat

/-- A length of time. -/
structure Duration where
  nanos : Nat
  nanos_lt : nanos < 2 ^ 64 * 10 ^ 9 := by omega
deriving DecidableEq, Repr

namespace Duration

def isZero (d : Duration) : Bool := d.nanos == 0

def ofSeconds (s : UInt64) : Duration :=
  ⟨s.toNat * 10 ^ 9, by have := s.toNat_lt; omega⟩

def ofMillis (ms : UInt64) : Duration :=
  ⟨ms.toNat * 10 ^ 6, by have := ms.toNat_lt; omega⟩

/-- The duration of so many nanoseconds, if they are few enough. -/
def ofNanos? (n : Nat) : Option Duration :=
  if h : n < 2 ^ 64 * 10 ^ 9 then some ⟨n, h⟩ else none

/-- The sum, if it is a duration. -/
def add? (a b : Duration) : Option Duration := ofNanos? (a.nanos + b.nanos)

/-- The whole milliseconds of a duration. -/
def millis (d : Duration) : Nat := d.nanos / 10 ^ 6

def seconds (d : Duration) : Nat := d.nanos / 10 ^ 9

/-- The nanoseconds beyond the whole seconds. -/
def subsecond (d : Duration) : Nat := d.nanos % 10 ^ 9

/-- The `width` digits of a fraction, without the zeros at its end. -/
def fractionDigits (width value : Nat) : List Char :=
  let digits := Nat.toDigits 10 value
  let padded := List.replicate (width - digits.length) '0' ++ digits
  (padded.reverse.dropWhile (· == '0')).reverse

/-- A count of units with `width` digits for what is left over. -/
def inUnit (n unit width : Nat) (name : String) : String :=
  match fractionDigits width (n % unit) with
  | [] => toString (n / unit) ++ name
  | digits => toString (n / unit) ++ "." ++ String.ofList digits ++ name

/-- The duration in the largest of the units `s`, `ms`, `µs` and `ns` that it reaches. -/
def text (d : Duration) : String :=
  if 10 ^ 9 ≤ d.nanos then inUnit d.nanos (10 ^ 9) 9 "s"
  else if 10 ^ 6 ≤ d.nanos then inUnit d.nanos (10 ^ 6) 6 "ms"
  else if 10 ^ 3 ≤ d.nanos then inUnit d.nanos (10 ^ 3) 3 "µs"
  else toString d.nanos ++ "ns"

end Duration

end RedisClient
