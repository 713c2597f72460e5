import RedisClient.Json.Text

/-!
# Skipping values

A value of a field that nobody knows is skipped, whatever its kind and depth, but it has to be
well-formed. The skipper reads one character at a time; its state says what may come next, and a
stack holds the lists and objects that are still open.
-/

namespace RedisClient.Json

/-- A list or an object that is still open. -/
inductive Frame
  | list | object
deriving DecidableEq, Repr

/-- What may come next. -/
inductive Place
  /-- A value. -/
  | value
  /-- The rest of a word such as `null`. -/
  | word (rest : List Char)
  /-- The first digit of a number. -/
  | number
  /-- What follows a leading zero. -/
  | zero
  /-- More digits before the point. -/
  | whole
  /-- The first digit after the point. -/
  | point
  /-- More digits after the point. -/
  | fraction
  /-- A sign or the first digit of an exponent. -/
  | exponent
  /-- The first digit of an exponent. -/
  | exponentDigit
  /-- More digits of an exponent. -/
  | exponentDigits
  /-- More of a text; `key` tells a key from a value. -/
  | text (key : Bool)
  /-- The character after a backslash. -/
  | escape (key : Bool)
  /-- So many hexadecimal digits, known to be there. -/
  | hex (key : Bool) (count : Nat)
  /-- The first member of a list or object, or its end. -/
  | opened
  /-- A comma, or the end of a list or object. -/
  | closed
  /-- A key. -/
  | key
  /-- The colon after a key. -/
  | colon
deriving DecidableEq, Repr

inductive Move
  | go (place : Place) (frames : List Frame)
  /-- The value ends with this character. -/
  | last
  /-- The value ended before this character. -/
  | past
  | stop (fault : Fault)

/-- The place after a whole value inside `frames`. -/
def afterValue : List Frame → Move
  | [] => .last
  | frames => .go .closed frames

/-- The first character of a value. -/
def startValue (frames : List Frame) (c : Char) : Move :=
  match c with
  | 'n' => .go (.word ['u', 'l', 'l']) frames
  | 't' => .go (.word ['r', 'u', 'e']) frames
  | 'f' => .go (.word ['a', 'l', 's', 'e']) frames
  | '-' => .go .number frames
  | '"' => .go (.text false) frames
  | '[' => .go .opened (.list :: frames)
  | '\x7b' => .go .opened (.object :: frames)
  | '0' => .go .zero frames
  | _ => if c.isDigit then .go .whole frames else .stop .noValue

/-- A key has to start with a quote. -/
def startKey (frames : List Frame) (c : Char) : Move :=
  if c = '"' then .go (.text true) frames else .stop .keyNotText

/-- What may follow a whole value inside a list or object. -/
def closeValue (frames : List Frame) (c : Char) : Move :=
  match frames, c with
  | [], _ => .past
  | .list :: _, ',' => .go .value frames
  | .list :: outer, ']' => afterValue outer
  | .list :: _, _ => if isSpace c then .go .closed frames else .stop .noCommaOrBracket
  | .object :: _, ',' => .go .key frames
  | .object :: outer, '\x7d' => afterValue outer
  | .object :: _, _ => if isSpace c then .go .closed frames else .stop .noCommaOrBrace

/-- What may follow an opening bracket or brace. -/
def openFrame (frames : List Frame) (c : Char) : Move :=
  if isSpace c then .go .opened frames
  else
    match frames, c with
    | .list :: outer, ']' => afterValue outer
    | .object :: outer, '\x7d' => afterValue outer
    | .object :: _, _ => startKey frames c
    | _, _ => startValue frames c

/-- What may follow digits after which the number may end. -/
def endDigits (again : Place) (point : Bool) (exponent : Bool) (frames : List Frame) (c : Char) :
    Move :=
  if c.isDigit then .go again frames
  else if point && c == '.' then .go .point frames
  else if exponent && (c == 'e' || c == 'E') then .go .exponent frames
  else closeValue frames c

/-- Digits that have to come. -/
def firstDigit (next : Place) (frames : List Frame) (c : Char) : Move :=
  if c.isDigit then .go next frames else .stop .badNumber

def afterText (key : Bool) (frames : List Frame) : Move :=
  if key then .go .colon frames else afterValue frames

/-- What the character `c` does, when `rest` follows it. -/
def move (place : Place) (frames : List Frame) (c : Char) (rest : List Char) : Move :=
  match place with
  | .value => if isSpace c then .go .value frames else startValue frames c
  | .word [] => .stop .noWord
  | .word [w] => if c = w then afterValue frames else .stop .noWord
  | .word (w :: word) => if c = w then .go (.word word) frames else .stop .noWord
  | .number => if c = '0' then .go .zero frames else firstDigit .whole frames c
  | .zero => if c.isDigit then .stop .badNumber else endDigits .zero true true frames c
  | .whole => endDigits .whole true true frames c
  | .point => firstDigit .fraction frames c
  | .fraction => endDigits .fraction false true frames c
  | .exponent =>
    if c = '+' ∨ c = '-' then .go .exponentDigit frames else firstDigit .exponentDigits frames c
  | .exponentDigit => firstDigit .exponentDigits frames c
  | .exponentDigits => endDigits .exponentDigits false false frames c
  | .text key =>
    if c = '"' then afterText key frames
    else if c = '\\' then .go (.escape key) frames
    else if c.toNat < 0x20 then .stop .rawControl
    else .go (.text key) frames
  | .escape key =>
    if c = 'u' then
      match readHex rest with
      | .error fault => .stop fault
      | .ok _ => .go (.hex key 4) frames
    else if (shortEscape? c).isSome then .go (.text key) frames
    else .stop .badEscape
  | .hex key count => .go (if count ≤ 1 then .text key else .hex key (count - 1)) frames
  | .opened => openFrame frames c
  | .closed => closeValue frames c
  | .key => if isSpace c then .go .key frames else startKey frames c
  | .colon =>
    if c = ':' then .go .value frames
    else if isSpace c then .go .colon frames
    else .stop .noColon

/-- What is missing when the text ends inside `frames`. -/
def openFault : List Frame → Fault
  | .list :: _ => .endInList
  | .object :: _ => .endInObject
  | [] => .endInValue

/-- The end of the text: a number that stands alone may end there. -/
def atEnd (place : Place) (frames : List Frame) : Except Fault (Unit × List Char) :=
  match place with
  | .value | .word _ => .error .endInValue
  | .number | .point | .exponent | .exponentDigit => .error .badNumber
  | .zero | .whole | .fraction | .exponentDigits =>
    if frames.isEmpty then .ok ((), []) else .error (openFault frames)
  | .text _ | .escape _ | .hex .. => .error .endInText
  | .opened | .closed | .key | .colon => .error (openFault frames)

/-- Skips to the end of the value that `place` and `frames` are inside of. -/
def skipFrom (place : Place) (frames : List Frame) : Reader Unit
  | [] => atEnd place frames
  | c :: rest =>
    match move place frames c rest with
    | .go place frames => skipFrom place frames rest
    | .last => .ok ((), rest)
    | .past => .ok ((), c :: rest)
    | .stop fault => .error fault

/-- Skips one value and the spaces before it. -/
def skipValue : Reader Unit := skipFrom .value []

end RedisClient.Json
