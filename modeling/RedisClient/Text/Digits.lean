/-!
# Decimal numerals

A numeral is a non-empty list of ASCII digits, most significant first. Leading zeros are
allowed and mean nothing.
-/

namespace RedisClient.Text

def digitValue (c : Char) : Nat := c.toNat - '0'.toNat

def digitsValue (digits : List Char) : Nat :=
  digits.foldl (fun value c => 10 * value + digitValue c) 0

/-- Reads a numeral and nothing else. -/
def readNatural? (s : List Char) : Option Nat :=
  if !s.isEmpty && s.all Char.isDigit then some (digitsValue s) else none

/-- Reads a numeral after an optional `+`. -/
def readUnsigned? : List Char → Option Nat
  | '+' :: digits => readNatural? digits
  | digits => readNatural? digits

def readSigned? : List Char → Option Int
  | '-' :: digits => (readNatural? digits).map fun n => -(n : Int)
  | digits => (readUnsigned? digits).map Int.ofNat

export Nat (digitChar)

/-- A byte as two lower-case hexadecimal digits. -/
def hexByte (b : UInt8) : String :=
  String.ofList [digitChar (b.toNat / 16), digitChar (b.toNat % 16)]

/-- The value of one hexadecimal digit of either case. -/
def hexValue? (c : Char) : Option Nat :=
  if c.isDigit then some (digitValue c)
  else if 'a' ≤ c ∧ c ≤ 'f' then some (c.toNat - 'a'.toNat + 10)
  else if 'A' ≤ c ∧ c ≤ 'F' then some (c.toNat - 'A'.toNat + 10)
  else none

end RedisClient.Text
