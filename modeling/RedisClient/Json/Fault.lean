import RedisClient.Binary64.Format
import RedisClient.Text.Quoted

/-!
# What can be wrong with a JSON document

A document is read once from left to right, and the first problem is reported. A problem is
either one of syntax or a value that does not fit the field it stands for.
-/

namespace RedisClient.Json

/-- What a document holds where something else is expected. -/
inductive Found
  | null
  | flag (value : Bool)
  | integer (value : Int)
  | real (value : Binary64)
  | text (value : String)
  | list
  | object
deriving DecidableEq, Repr

def Found.words : Found → String
  | null => "null"
  | flag value => "boolean `" ++ (if value then "true" else "false") ++ "`"
  | integer value => "integer `" ++ toString value ++ "`"
  | real value => "floating point `" ++ Binary64.quoted.write value ++ "`"
  | text value => "string " ++ Text.quoted value
  | list => "sequence"
  | object => "map"

inductive Fault
  | endInValue
  | endInObject
  | endInList
  | endInText
  | noValue
  | noWord
  | noColon
  | noCommaOrBrace
  | noCommaOrBracket
  | trailingComma
  | trailingText
  | keyNotText
  | badNumber
  | numberTooLarge
  | badEscape
  | rawControl
  | loneSurrogate
  | cutSurrogate
  | wrongType (found : Found) (expected : String)
  | outOfRange (value : Int) (expected : String)
  | wrongLength (length : Nat) (expected : String)
  | missingField (name : String)
  | repeatedField (name : String)
deriving DecidableEq, Repr

def Fault.message : Fault → String
  | endInValue => "EOF while parsing a value"
  | endInObject => "EOF while parsing an object"
  | endInList => "EOF while parsing a list"
  | endInText => "EOF while parsing a string"
  | noValue => "expected value"
  | noWord => "expected ident"
  | noColon => "expected `:`"
  | noCommaOrBrace => "expected `,` or `\x7d`"
  | noCommaOrBracket => "expected `,` or `]`"
  | trailingComma => "trailing comma"
  | trailingText => "trailing characters"
  | keyNotText => "key must be a string"
  | badNumber => "invalid number"
  | numberTooLarge => "number out of range"
  | badEscape => "invalid escape"
  | rawControl => "control character (\\u0000-\\u001F) found while parsing a string"
  | loneSurrogate => "lone leading surrogate in hex escape"
  | cutSurrogate => "unexpected end of hex escape"
  | wrongType found expected => "invalid type: " ++ found.words ++ ", expected " ++ expected
  | outOfRange value expected =>
    "invalid value: integer `" ++ toString value ++ "`, expected " ++ expected
  | wrongLength length expected =>
    "invalid length " ++ toString length ++ ", expected " ++ expected
  | missingField name => "missing field `" ++ name ++ "`"
  | repeatedField name => "duplicate field `" ++ name ++ "`"

/-- A reader takes a value off the front of the text, or finds a fault. -/
abbrev Reader (α : Type) := List Char → Except Fault (α × List Char)

/-- The four characters that may stand between the parts of a document. -/
def isSpace (c : Char) : Bool := c == ' ' || c == '\n' || c == '\t' || c == '\r'

def skipSpace (s : List Char) : List Char := s.dropWhile isSpace

/-- Reads the rest of a word such as `null`. -/
def readWord : List Char → Reader Unit
  | [], s => .ok ((), s)
  | _ :: _, [] => .error .endInValue
  | w :: word, c :: s => if c = w then readWord word s else .error .noWord

end RedisClient.Json
