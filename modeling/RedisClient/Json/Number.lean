import RedisClient.Json.Fault

/-!
# Numbers in JSON

A number without fraction and exponent is an integer if it lies between `-2^63` and `2^64 - 1`
and is not `-0`; every other number is a double. The digits of a double are collected only while
they fit 64 bits, and the result is scaled by a rounded power of ten.
-/

namespace RedisClient.Json

inductive Number
  /-- A natural number below `2^64`. -/
  | natural (n : Nat)
  /-- The number `-n`, for an `n` from 1 to `2^63`. -/
  | negative (n : Nat)
  | real (x : Binary64)
deriving DecidableEq, Repr

/-- The number in the words of a complaint. -/
def Number.found : Number → Found
  | natural n => .integer n
  | negative n => .integer (-(n : Int))
  | real x => .real x

/-- Collects digits while the significand stays below `2^64`: the significand, the number of
digits collected, and the text that follows. -/
def collect (significand : Nat) : List Char → Nat × Nat × List Char
  | [] => (significand, 0, [])
  | c :: rest =>
    let next := 10 * significand + Text.digitValue c
    if c.isDigit ∧ next < 2 ^ 64 then
      let (final, count, after) := collect next rest
      (final, count + 1, after)
    else (significand, 0, c :: rest)

/-- A magnitude times `10^exponent`, by one rounded power of ten; below `10^-308` it is first
divided by that power. -/
def scale (negative : Bool) (magnitude : Nat) (exponent : Int) : Except Fault Binary64 :=
  if 0 ≤ exponent ∧ exponent ≤ 308 then
    let product := Binary64.product magnitude (Binary64.powerOfTen exponent.toNat)
    if product = Binary64.infinite then .error .numberTooLarge
    else .ok (.ofMagnitude negative product)
  else if exponent < 0 ∧ -308 ≤ exponent then
    let quotient := Binary64.quotient magnitude (Binary64.powerOfTen (-exponent).toNat)
    .ok (.ofMagnitude negative quotient)
  else if magnitude = 0 then .ok (.ofMagnitude negative 0)
  else if 0 ≤ exponent then .error .numberTooLarge
  else scale negative (Binary64.quotient magnitude (Binary64.powerOfTen 308)) (exponent + 308)
termination_by (-exponent).toNat
decreasing_by omega

def real (negative : Bool) (significand : Nat) (exponent : Int) (rest : List Char) :
    Except Fault (Number × List Char) :=
  (scale negative (Binary64.ofNatural significand) exponent).map fun x => (.real x, rest)

def exponentSign : List Char → Bool × List Char
  | '-' :: rest => (true, rest)
  | '+' :: rest => (false, rest)
  | rest => (false, rest)

/-- Reads an exponent after its `e`. One that is too large for 31 bits makes zero of the number
or puts it out of range. -/
def readExponent (negative : Bool) (significand : Nat) (exponent : Int) : Reader Number := fun s =>
  let (down, s) := exponentSign s
  match s with
  | [] => .error .endInValue
  | c :: _ =>
    if !c.isDigit then .error .badNumber
    else
      let e := Text.digitsValue (s.takeWhile Char.isDigit)
      let rest := s.dropWhile Char.isDigit
      if e < 2 ^ 31 then
        real negative significand (if down then exponent - e else exponent + e) rest
      else if significand ≠ 0 ∧ !down then .error .numberTooLarge
      else .ok (.real (.ofMagnitude negative 0), rest)

/-- Goes on after the digits of a double: an exponent, or the end. -/
def readScale (negative : Bool) (significand : Nat) (exponent : Int) : Reader Number
  | 'e' :: rest | 'E' :: rest => readExponent negative significand exponent rest
  | rest => real negative significand exponent rest

/-- Reads the digits after a point. Those that no longer fit are skipped. -/
def readFraction (negative : Bool) (significand : Nat) (exponent : Int) : Reader Number := fun s =>
  match s with
  | [] => .error .endInValue
  | c :: _ =>
    if !c.isDigit then .error .badNumber
    else
      let (significand, count, rest) := collect significand s
      readScale negative significand (exponent - count) (rest.dropWhile Char.isDigit)

/-- An integer without fraction and exponent that fits 64 bits. -/
def integer (negative : Bool) (n : Nat) : Number :=
  if !negative then .natural n
  else if 0 < n ∧ n ≤ 2 ^ 63 then .negative n
  else .real (.ofMagnitude true (Binary64.ofNatural n))

/-- Goes on after the whole digits of a number, of which the last `skipped` did not fit. -/
def readTail (negative : Bool) (significand skipped : Nat) : Reader Number
  | '.' :: rest => readFraction negative significand skipped rest
  | 'e' :: rest | 'E' :: rest => readExponent negative significand skipped rest
  | rest =>
    if skipped = 0 then .ok (integer negative significand, rest)
    else real negative significand skipped rest

/-- Reads a number after its sign. A leading zero stands alone. -/
def readNumber (negative : Bool) : Reader Number
  | [] => .error .endInValue
  | '0' :: rest =>
    match rest with
    | c :: _ => if c.isDigit then .error .badNumber else readTail negative 0 0 rest
    | [] => readTail negative 0 0 rest
  | c :: rest =>
    if !c.isDigit then .error .badNumber
    else
      let (significand, _, after) := collect (Text.digitValue c) rest
      readTail negative significand (after.takeWhile Char.isDigit).length
        (after.dropWhile Char.isDigit)

end RedisClient.Json
