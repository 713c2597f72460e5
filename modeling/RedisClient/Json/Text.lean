import RedisClient.Json.Fault

/-!
# Texts in JSON

`readText` reads a text after its opening quote: escapes are resolved, two escapes that name a
pair of surrogates stand for one character, and control characters have to be escaped. `quote`
writes a text with the fewest escapes.
-/

namespace RedisClient.Json

def byteCount (s : List Char) : Nat := s.foldr (fun c count => c.utf8Size + count) 0

/-- The four hexadecimal digits of an escape. A text that ends before four bytes is cut short,
whatever it holds. -/
def readHex : Reader Nat
  | a :: b :: c :: d :: rest =>
    match Text.hexValue? a, Text.hexValue? b, Text.hexValue? c, Text.hexValue? d with
    | some a, some b, some c, some d => .ok (a * 4096 + b * 256 + c * 16 + d, rest)
    | _, _, _, _ => .error .badEscape
  | short => if byteCount short < 4 then .error .endInText else .error .badEscape

/-- The escapes of one letter. -/
def shortEscape? : Char → Option Char
  | '"' => some '"'
  | '\\' => some '\\'
  | '/' => some '/'
  | 'b' => some '\x08'
  | 'f' => some '\x0c'
  | 'n' => some '\n'
  | 'r' => some '\r'
  | 't' => some '\t'
  | _ => none

def isHighSurrogate (n : Nat) : Bool := 0xD800 ≤ n && n ≤ 0xDBFF

def isLowSurrogate (n : Nat) : Bool := 0xDC00 ≤ n && n ≤ 0xDFFF

/-- The character that a pair of surrogates stands for. -/
def joinSurrogates (high low : Nat) : Char :=
  Char.ofNat (0x10000 + (high - 0xD800) * 0x400 + (low - 0xDC00))

/-- The second half of a pair of surrogates: a further escape. -/
def readLowSurrogate (high : Nat) : Reader Char
  | [] => .error .endInText
  | '\\' :: [] => .error .endInText
  | '\\' :: 'u' :: rest =>
    match readHex rest with
    | .error fault => .error fault
    | .ok (low, rest) =>
      if isLowSurrogate low then .ok (joinSurrogates high low, rest) else .error .loneSurrogate
  | _ => .error .cutSurrogate

/-- The character of an escape, given without its backslash. -/
def readEscape : Reader Char
  | [] => .error .endInText
  | 'u' :: rest =>
    match readHex rest with
    | .error fault => .error fault
    | .ok (n, rest) =>
      if isLowSurrogate n then .error .loneSurrogate
      else if isHighSurrogate n then readLowSurrogate n rest
      else .ok (Char.ofNat n, rest)
  | c :: rest => (shortEscape? c).elim (.error .badEscape) fun e => .ok (e, rest)

/-- Characters up to the closing quote; `done` holds those already read, last first. Every step
drops a character, so `fuel` may be the length of the text. -/
def readChars : Nat → List Char → Reader String
  | 0, _, _ => .error .endInText
  | _ + 1, _, [] => .error .endInText
  | _ + 1, done, '"' :: rest => .ok (String.ofList done.reverse, rest)
  | fuel + 1, done, '\\' :: rest =>
    match readEscape rest with
    | .error fault => .error fault
    | .ok (c, rest) => readChars fuel (c :: done) rest
  | fuel + 1, done, c :: rest =>
    if c.toNat < 0x20 then .error .rawControl else readChars fuel (c :: done) rest

def readText : Reader String := fun s => readChars (s.length + 1) [] s

def quoteChar (c : Char) : List Char :=
  match c with
  | '"' => ['\\', '"']
  | '\\' => ['\\', '\\']
  | '\x08' => ['\\', 'b']
  | '\t' => ['\\', 't']
  | '\n' => ['\\', 'n']
  | '\x0c' => ['\\', 'f']
  | '\r' => ['\\', 'r']
  | _ =>
    if c.toNat < 0x20 then
      ['\\', 'u', '0', '0', Nat.digitChar (c.toNat / 16), Nat.digitChar (c.toNat % 16)]
    else [c]

def quote (s : String) : String :=
  String.ofList ('"' :: (s.toList.flatMap quoteChar ++ ['"']))

end RedisClient.Json
