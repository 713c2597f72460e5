import RedisClient.Json.Number
import RedisClient.Json.Skip

/-!
# Records in JSON

A record is written as an object whose keys are its field names, or as a list of its field
values in order. Keys that name no field are skipped with their values, no field may come twice,
and a field that does not come keeps its default, if it has one. `Schema.decode` reads a whole
document.
-/

namespace RedisClient.Json

/-! ## Values of fields -/

/-- The fault of a value of the wrong kind; `s` starts with its first character. -/
def mismatch (expected : String) (s : List Char) : Fault :=
  let wrong (found : Except Fault (Found × List Char)) : Fault :=
    match found with
    | .ok (found, _) => .wrongType found expected
    | .error fault => fault
  let word (rest : List Char) (found : Found) (s : List Char) : Fault :=
    wrong ((readWord rest s).map fun (_, s) => (found, s))
  match s with
  | [] => .endInValue
  | 'n' :: s => word ['u', 'l', 'l'] .null s
  | 't' :: s => word ['r', 'u', 'e'] (.flag true) s
  | 'f' :: s => word ['a', 'l', 's', 'e'] (.flag false) s
  | '-' :: s => wrong ((readNumber true s).map fun (n, s) => (n.found, s))
  | '"' :: s => wrong ((readText s).map fun (t, s) => (.text t, s))
  | '[' :: _ => .wrongType .list expected
  | '\x7b' :: _ => .wrongType .object expected
  | c :: s =>
    if c.isDigit then wrong ((readNumber false (c :: s)).map fun (n, s) => (n.found, s))
    else .noValue

def text : Reader String := fun s =>
  match skipSpace s with
  | '"' :: rest => readText rest
  | s => .error (mismatch "a string" s)

def textOrNull : Reader (Option String) := fun s =>
  match skipSpace s with
  | 'n' :: rest => (readWord ['u', 'l', 'l'] rest).map fun (_, s) => (none, s)
  | s => (text s).map fun (t, s) => (some t, s)

def flag : Reader Bool := fun s =>
  match skipSpace s with
  | 't' :: rest => (readWord ['r', 'u', 'e'] rest).map fun (_, s) => (true, s)
  | 'f' :: rest => (readWord ['a', 'l', 's', 'e'] rest).map fun (_, s) => (false, s)
  | s => .error (mismatch "a boolean" s)

/-- Reads an integer that `accept` takes. -/
def number {α : Type} (expected : String) (accept : Int → Option α) : Reader α := fun s =>
  let take : Number × List Char → Except Fault (α × List Char)
    | (.real x, _) => .error (.wrongType (.real x) expected)
    | (.natural n, s) => (accept n).elim (.error (.outOfRange n expected)) fun a => .ok (a, s)
    | (.negative n, s) =>
      (accept (-(n : Int))).elim (.error (.outOfRange (-(n : Int)) expected)) fun a => .ok (a, s)
  match skipSpace s with
  | '-' :: rest => (readNumber true rest).bind take
  | c :: rest =>
    if c.isDigit then (readNumber false (c :: rest)).bind take
    else .error (mismatch expected (c :: rest))
  | [] => .error .endInValue

/-- Reads an integer from `low` up to `bound`, without `bound` itself. `ofInt` is its value. -/
def bounded {α : Type} (expected : String) (low bound : Int) (ofInt : Int → α) : Reader α :=
  number expected fun n => if low ≤ n ∧ n < bound then some (ofInt n) else none

def int64 : Reader Int64 := bounded "i64" (-2 ^ 63) (2 ^ 63) Int64.ofInt

def uint16 : Reader UInt16 := bounded "u16" 0 (2 ^ 16) fun n => .ofNat n.toNat

def uint32 : Reader UInt32 := bounded "u32" 0 (2 ^ 32) fun n => .ofNat n.toNat

def uint64 : Reader UInt64 := bounded "u64" 0 (2 ^ 64) fun n => .ofNat n.toNat

/-! ## Schemas -/

/-- A field of a record `α`: reading its value gives the change that the value makes. -/
structure Field (α : Type) where
  name : String
  required : Bool
  read : Reader (α → α)

/-- The fields of a record, in order, and the record in which no field has come yet. -/
structure Schema (α : Type) where
  title : String
  start : α
  fields : List (Field α)

/-- A field whose value is put into the record by `put`. -/
def Field.of {α β : Type} (name : String) (read : Reader β) (put : α → β → α)
    (required : Bool := false) : Field α :=
  ⟨name, required, fun s => (read s).map fun (b, s) => ((put · b), s)⟩

namespace Schema

variable {α : Type} (schema : Schema α)

def lengthWords : String :=
  "struct " ++ schema.title ++ " with " ++ toString schema.fields.length ++ " elements"

/-! ## Lists of field values -/

/-- Goes to the next element of a list; there is none at its closing bracket, which stays. -/
def nextElement (first : Bool) (s : List Char) : Except Fault (Option (List Char)) :=
  match skipSpace s with
  | [] => .error .endInList
  | ']' :: _ => .ok none
  | ',' :: rest =>
    if first then .ok (some (',' :: rest))
    else
      match skipSpace rest with
      | [] => .error .endInValue
      | ']' :: _ => .error .trailingComma
      | rest => .ok (some rest)
  | s => if first then .ok (some s) else .error .noCommaOrBracket

def closeList (s : List Char) : Except Fault (List Char) :=
  match skipSpace s with
  | [] => .error .endInList
  | ']' :: rest => .ok rest
  | ',' :: rest =>
    match skipSpace rest with
    | ']' :: _ => .error .trailingComma
    | _ => .error .trailingText
  | _ => .error .trailingText

/-- Reads field values in order, the first of them with the number `index`. -/
def readElements (index : Nat) (a : α) : List (Field α) → Reader α
  | [], s => (closeList s).map fun s => (a, s)
  | field :: fields, s =>
    match nextElement (index == 0) s with
    | .error fault => .error fault
    | .ok none =>
      if field.required then .error (.wrongLength index schema.lengthWords)
      else readElements (index + 1) a fields s
    | .ok (some s) =>
      match field.read s with
      | .error fault => .error fault
      | .ok (change, s) => readElements (index + 1) (change a) fields s

/-! ## Objects -/

/-- Goes to the text of the next key of an object; there is none at its closing brace, which
stays. -/
def nextKey (first : Bool) (s : List Char) : Except Fault (Option (List Char)) :=
  let start : List Char → Except Fault (Option (List Char))
    | [] => .error .endInValue
    | '"' :: rest => .ok (some rest)
    | '\x7d' :: _ => .error .trailingComma
    | _ => .error .keyNotText
  match skipSpace s with
  | [] => .error .endInObject
  | '\x7d' :: _ => .ok none
  | ',' :: rest => if first then .error .keyNotText else start (skipSpace rest)
  | s => if first then start s else .error .noCommaOrBrace

def readColon (s : List Char) : Except Fault (List Char) :=
  match skipSpace s with
  | [] => .error .endInObject
  | ':' :: rest => .ok rest
  | _ => .error .noColon

/-- The first required field that has not come. -/
def missing? (seen : List String) : Option String :=
  (schema.fields.find? fun f => f.required && !seen.contains f.name).map (·.name)

/-- Reads the closing brace of an object whose keys were `seen`. -/
def closeObject (seen : List String) (a : α) : Reader α := fun s =>
  match schema.missing? seen with
  | some name => .error (.missingField name)
  | none => .ok (a, (skipSpace s).drop 1)

/-- Reads the value of the key `key`, and tells the change that it makes. -/
def readMember (seen : List String) (key : String) (s : List Char) :
    Except Fault ((α → α) × List Char) :=
  match schema.fields.find? (·.name == key) with
  | some field =>
    if seen.contains key then .error (.repeatedField key)
    else (readColon s).bind field.read
  | none => ((readColon s).bind skipValue).map fun (_, s) => (id, s)

/-- Reads members up to the closing brace. Every member takes a character at least, so `fuel` may
be the length of the text. -/
def readMembers : Nat → Bool → List String → α → Reader α
  | 0, _, _, _, _ => .error .endInObject
  | fuel + 1, first, seen, a, s =>
    match nextKey first s with
    | .error fault => .error fault
    | .ok none => schema.closeObject seen a s
    | .ok (some s) =>
      match readText s with
      | .error fault => .error fault
      | .ok (key, s) =>
        match schema.readMember seen key s with
        | .error fault => .error fault
        | .ok (change, s) => readMembers fuel false (key :: seen) (change a) s

/-! ## Documents -/

def read : Reader α := fun s =>
  match skipSpace s with
  | [] => .error .endInValue
  | '[' :: rest => schema.readElements 0 schema.start schema.fields rest
  | '\x7b' :: rest => schema.readMembers (rest.length + 1) true [] schema.start rest
  | s => .error (mismatch ("struct " ++ schema.title) s)

/-- Reads a document that holds a record and nothing else. -/
def decodeChars (s : List Char) : Except Fault α :=
  match schema.read s with
  | .error fault => .error fault
  | .ok (a, rest) => if (skipSpace rest).isEmpty then .ok a else .error .trailingText

def decode (document : String) : Except Fault α := schema.decodeChars document.toList

end Schema

/-! ## Writing -/

/-- An object on one line, from its names and the texts of its values. -/
def writeObject (members : List (String × String)) : String :=
  "\x7b" ++ ",".intercalate (members.map fun (name, value) => quote name ++ ":" ++ value) ++ "\x7d"

def writeTextOrNull (t : Option String) : String := t.elim "null" quote

def writeFlag (b : Bool) : String := if b then "true" else "false"

end RedisClient.Json
