/-!
# Blank characters and trimming

The blank characters are those with the Unicode property White_Space. A text is trimmed by
dropping blank characters at both ends; it is blank when nothing is left.
-/

namespace RedisClient.Text

/-- The characters of the property White_Space. -/
def isBlank (c : Char) : Bool :=
  let n := c.toNat
  (0x09 ≤ n && n ≤ 0x0D) || n == 0x20 || n == 0x85 || n == 0xA0 || n == 0x1680 ||
    (0x2000 ≤ n && n ≤ 0x200A) || n == 0x2028 || n == 0x2029 || n == 0x202F || n == 0x205F ||
    n == 0x3000

def trimEnd (s : List Char) : List Char := (s.reverse.dropWhile isBlank).reverse

def trim (s : List Char) : List Char := trimEnd (s.dropWhile isBlank)

def trimmed (s : String) : String := String.ofList (trim s.toList)

/-- Nothing is left of a blank text after trimming. -/
def isBlankText (s : String) : Bool := s.toList.all isBlank

end RedisClient.Text
