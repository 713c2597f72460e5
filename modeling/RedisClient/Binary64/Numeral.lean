import RedisClient.Binary64.Rounding
import RedisClient.Text.Digits

/-!
# Reading doubles

A numeral for a double has an optional sign, then `inf`, `infinity` or `nan` in any case, or
digits with at most one point and at least one digit, and an optional exponent. The result is
the double nearest to the numeral's exact value.
-/

namespace RedisClient.Binary64

def lower (s : List Char) : List Char := s.map Char.toLower

def splitSign : List Char → Bool × List Char
  | '-' :: rest => (true, rest)
  | '+' :: rest => (false, rest)
  | rest => (false, rest)

/-- Digits with an optional point among them, as a whole number and the places after the point;
then the text that follows. -/
def splitDigits (s : List Char) : Option (Nat × Nat × List Char) :=
  let whole := s.takeWhile Char.isDigit
  let (fraction, rest) :=
    match s.dropWhile Char.isDigit with
    | '.' :: after => (after.takeWhile Char.isDigit, after.dropWhile Char.isDigit)
    | after => ([], after)
  if whole.isEmpty && fraction.isEmpty then none
  else some (Text.digitsValue (whole ++ fraction), fraction.length, rest)

/-- The exponent at the end of a numeral: nothing, or `e` and a signed number. -/
def readExponent? : List Char → Option Int
  | [] => some 0
  | c :: rest => if c = 'e' ∨ c = 'E' then Text.readSigned? rest else none

def readMagnitude? (s : List Char) : Option Nat := do
  let (digits, places, rest) ← splitDigits s
  let exponent ← readExponent? rest
  some (ofDecimal digits (exponent - places))

/-- Reads a numeral and nothing else. -/
def read? (s : List Char) : Option Binary64 :=
  let (negative, rest) := splitSign s
  let word := lower rest
  if word = "inf".toList ∨ word = "infinity".toList then some (infinity negative)
  else if word = "nan".toList then some (if negative then nan.negate else nan)
  else (readMagnitude? rest).map (ofMagnitude negative)

def ofText? (s : String) : Option Binary64 := read? s.toList

end RedisClient.Binary64
