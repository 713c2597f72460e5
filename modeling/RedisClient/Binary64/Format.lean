import RedisClient.Binary64.Shortest

/-!
# Writing doubles

A double is written with the digits of its shortest decimal, either in full with a point, or as
a significand and an exponent. A `Format` says which doubles are written in full and how the
parts look. `Format.write` is the writer; the four formats of the library stand below it.
-/

namespace RedisClient.Binary64

/-- How the digits of a double are laid out. -/
structure Format where
  /-- The least and the greatest exponent of the leading digit that are written in full; `none`
  writes every double in full. -/
  full : Option (Int × Int)
  /-- Whether a whole number written in full ends in `.0`. -/
  wholeMark : Bool
  /-- Whether an exponent above zero has a `+`. -/
  plusSign : Bool
  /-- Which of two shortest decimals equally near is taken. -/
  tie : Tie

namespace Format

/-- Digits in full, with the point `point` places after the first digit. -/
def inFull (f : Format) (digits : List Char) (point : Int) : List Char :=
  if point ≤ 0 then '0' :: '.' :: (List.replicate (-point).toNat '0' ++ digits)
  else if (digits.length : Int) ≤ point then
    digits ++ List.replicate (point.toNat - digits.length) '0' ++
      (if f.wholeMark then ['.', '0'] else [])
  else digits.take point.toNat ++ '.' :: digits.drop point.toNat

/-- Digits as a significand below ten, and the exponent of the first digit. -/
def withExponent (f : Format) (digits : List Char) (exponent : Int) : List Char :=
  let significand :=
    match digits with
    | first :: second :: rest => first :: '.' :: second :: rest
    | short => short
  let sign := if exponent < 0 then ['-'] else if f.plusSign then ['+'] else []
  significand ++ 'e' :: sign ++ Nat.toDigits 10 exponent.natAbs

def writeMagnitude (f : Format) (magnitude : Nat) : List Char :=
  let d := shortest f.tie magnitude
  let digits := Nat.toDigits 10 d.digits
  let point := digits.length + d.exponent
  match f.full with
  | none => f.inFull digits point
  | some (least, greatest) =>
    if magnitude = 0 ∨ (least ≤ point - 1 ∧ point - 1 ≤ greatest) then f.inFull digits point
    else f.withExponent digits (point - 1)

def write (f : Format) (x : Binary64) : String :=
  if x.isNaN then "NaN"
  else
    let sign := if x.negative then ['-'] else []
    String.ofList (sign ++ if x.isInfinite then ['i', 'n', 'f'] else f.writeMagnitude x.magnitude)

end Format

/-- Increments are written in full from `0.00001` up to 16 digits before the point, and always
show a point or an exponent. -/
def increment : Format := ⟨some (-5, 15), true, false, .even⟩

/-- Plain numbers are always written in full, a whole number without a point. -/
def plain : Format := ⟨none, false, false, .up⟩

/-- Numbers inside a description of a reply have an exponent below `0.0001` and from 17 digits
before the point. -/
def described : Format := ⟨some (-4, 15), true, false, .up⟩

/-- Numbers quoted in complaints about a document mark an exponent above zero with `+`. -/
def quoted : Format := ⟨some (-5, 15), true, true, .even⟩

end RedisClient.Binary64
