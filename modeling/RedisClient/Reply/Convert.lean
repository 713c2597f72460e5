import RedisClient.Binary64.Integer
import RedisClient.Binary64.Numeral
import RedisClient.Dict
import RedisClient.Reply.Describe

/-!
# Reading values out of replies

Each kind of value that a command can return has a function that takes it out of a reply. Several
kinds of reply serve for one kind of value; all others are failures of type, whose detail names
what was wanted and describes the reply at which the reading stopped.
-/

namespace RedisClient

-- Byte arrays are compared as the core library does it, whatever else a module imports.
attribute [instance (2000)] ByteArray.instDecidableEq

/-- What a command returns. -/
inductive Answer
  | text (s : String)
  | int (n : Int64)
  | real (x : Binary64)
  | flag (b : Bool)
  | absent
  | texts (items : List String)
  | maybeTexts (items : List (Option String))
  | set (items : Dict Unit)
  | map (entries : Dict String)
  | pair (first second : String)
  | bytes (b : ByteArray)
deriving DecidableEq

namespace Reply

/-- The failure of a reply that is not of the kind wanted. -/
def incompatible (r : Reply) (wanted : String) : Failure :=
  .described .type "Response was of incompatible type"
    (some ("\"" ++ wanted ++ "\" (response was " ++ r.describe ++ ")"))

/-- The failure of bytes that are not a text, while a text is read. -/
def notText : Failure := .described .type "Cannot convert from UTF-8" none

/-- The failure of bytes that are not a text, where the text is only looked through. -/
def notReadable : Failure := .described .type "Invalid UTF-8" none

def decodeText (failure : Failure) (bytes : ByteArray) : Except Failure String :=
  (String.fromUTF8? bytes).elim (.error failure) .ok

/-- Takes out a text; bytes that are none are the given failure. -/
def textOr (failure : Failure) (r : Reply) : Except Failure String :=
  match r with
  | bulk bytes => decodeText failure bytes
  | okay => .ok "OK"
  | simple s | verbatim _ s => .ok s
  | double x => .ok (Binary64.plain.write x)
  | int n => .ok (toString n.toInt)
  | r => .error (r.incompatible "Response type not string compatible.")

def toText (r : Reply) : Except Failure String := r.textOr notText

/-- Takes out a number: from an integer or a double, or from a text that `read?` can read. -/
def toNumber {α : Type} (ofInt : Int64 → α) (ofDouble : Binary64 → α) (read? : String → Option α)
    (r : Reply) : Except Failure α :=
  let fromText (s : String) : Except Failure α :=
    (read? s).elim (.error (r.incompatible "Could not convert from string.")) .ok
  match r with
  | int n => .ok (ofInt n)
  | double x => .ok (ofDouble x)
  | simple s => fromText s
  | bulk bytes => (decodeText notReadable bytes).bind fromText
  | r => .error (r.incompatible "Response type not convertible to numeric.")

def readInt64? (s : String) : Option Int64 :=
  (Text.readSigned? s.toList).bind fun n =>
    if -2 ^ 63 ≤ n ∧ n < 2 ^ 63 then some (Int64.ofInt n) else none

def readByte? (s : String) : Option UInt8 :=
  (Text.readUnsigned? s.toList).bind fun n => if n < 256 then some (UInt8.ofNat n) else none

def toInt64 : Reply → Except Failure Int64 :=
  toNumber id (fun x => Int64.ofInt (x.truncate (-2 ^ 63) (2 ^ 63 - 1))) readInt64?

def toBinary64 : Reply → Except Failure Binary64 :=
  toNumber (fun n => Binary64.ofInt n.toInt) id Binary64.ofText?

/-- Takes out a byte; an integer counts modulo 256. -/
def toByte : Reply → Except Failure UInt8 :=
  toNumber (fun n => UInt8.ofNat (n.toInt % 256).toNat)
    (fun x => UInt8.ofNat (x.truncate 0 255).toNat) readByte?

def toFlag (r : Reply) : Except Failure Bool :=
  match r with
  | nil => .ok false
  | int n => .ok (n ≠ 0)
  | flag b => .ok b
  | okay => .ok true
  | simple s =>
    if s = "1" then .ok true
    else if s = "0" then .ok false
    else .error (r.incompatible "Response status not valid boolean")
  | bulk bytes =>
    if bytes = "1".toByteArray then .ok true
    else if bytes = "0".toByteArray then .ok false
    else .error (r.incompatible "Response type not bool compatible.")
  | r => .error (r.incompatible "Response type not bool compatible.")

/-- Takes out a value, or nothing from the empty reply. -/
def toOption {α : Type} (read : Reply → Except Failure α) (r : Reply) :
    Except Failure (Option α) :=
  match r with
  | nil => .ok none
  | r => (read r).map some

/-- Takes out a list: one element from each member of an aggregate, where an entry of a map counts
as a map of its own, or a single one from a text. -/
def toList {α : Type} (read : Reply → Except Failure α) (r : Reply) : Except Failure (List α) :=
  match r with
  | array items | set items => items.mapM read
  | nil => .ok []
  | bulk bytes => (read (bulk bytes)).map ([·])
  | map entries => entries.mapM fun entry => read (map [entry])
  | r => .error (r.incompatible "Response type not vector compatible.")

/-- Takes out bytes: those of a bulk reply, or one from each member of an aggregate. -/
def toBytes (r : Reply) : Except Failure ByteArray :=
  match r with
  | bulk bytes => .ok bytes
  | r => (toList toByte r).map fun bytes => ⟨bytes.toArray⟩

def toTextSet (r : Reply) : Except Failure (Dict Unit) :=
  match r with
  | array items | set items =>
    (items.mapM toText).map fun texts => .ofList (texts.map fun t => (t, ()))
  | nil => .ok .empty
  | r => .error (r.incompatible "Response type not map compatible")

/-- Neighbours in a list as pairs, if none is left over. -/
def pairs? {α : Type} : List α → Option (List (α × α))
  | [] => some []
  | [_] => none
  | a :: b :: rest => (pairs? rest).map ((a, b) :: ·)

def toEntry (entry : Reply × Reply) : Except Failure (String × String) :=
  match entry.1.toText, entry.2.toText with
  | .ok key, .ok value => .ok (key, value)
  | .error failure, _ => .error failure
  | .ok _, .error failure => .error failure

/-- Takes out a map of texts. In an array, keys and values alternate. -/
def toTextMap (r : Reply) : Except Failure (Dict String) :=
  let fromEntries (entries : List (Reply × Reply)) : Except Failure (Dict String) :=
    (entries.mapM toEntry).map Dict.ofList
  match r with
  | nil => .ok .empty
  | map entries => fromEntries entries
  | array items =>
    match pairs? items with
    | some entries => fromEntries entries
    | none => .error (r.incompatible "Response type not map compatible")
  | r => .error (r.incompatible "Response type not map compatible")

def toTexts (failure : Failure) (a b : Reply) : Except Failure (String × String) :=
  match a.textOr failure, b.textOr failure with
  | .ok first, .ok second => .ok (first, second)
  | .error failure, _ => .error failure
  | .ok _, .error failure => .error failure

/-- Takes out a pair of texts: the two elements of an array, or the first key of a map and its
value. A map without entries has no pair to give (see `crashes`). -/
def toPair (r : Reply) : Except Failure (String × String) :=
  match r with
  | array [a, b] => toTexts notText a b
  | array _ => .error (r.incompatible "Array response of wrong dimension")
  | map ((key, value) :: _) => toTexts notReadable key value
  | r => .error (r.incompatible "Not a Array response")

end Reply

/-! ## Shapes of answers -/

/-- The kind of value that a command returns. -/
inductive Shape
  | text | optionalText | int | optionalInt | real | optionalReal | flag | texts | maybeTexts | set
  | map | optionalPair | optionalBytes
deriving DecidableEq, Repr

namespace Shape

def optional {α : Type} (answer : α → Answer) (value : Option α) : Answer :=
  value.elim .absent answer

/-- Takes the answer out of a reply that holds no error. -/
def ofValue (shape : Shape) (r : Reply) : Except Failure Answer :=
  match shape with
  | text => r.toText.map .text
  | optionalText => (r.toOption Reply.toText).map (optional .text)
  | int => r.toInt64.map .int
  | optionalInt => (r.toOption Reply.toInt64).map (optional .int)
  | real => r.toBinary64.map .real
  | optionalReal => (r.toOption Reply.toBinary64).map (optional .real)
  | flag => r.toFlag.map .flag
  | texts => (r.toList Reply.toText).map .texts
  | maybeTexts => (r.toList (Reply.toOption Reply.toText)).map .maybeTexts
  | set => r.toTextSet.map .set
  | map => r.toTextMap.map .map
  | optionalPair => (r.toOption Reply.toPair).map (optional fun (a, b) => .pair a b)
  | optionalBytes => (r.toOption Reply.toBytes).map (optional .bytes)

/-- Takes the answer out of a reply; an error anywhere inside is the failure of the whole. -/
def read (shape : Shape) (r : Reply) : Except Failure Answer :=
  match r.firstError? with
  | some e => .error e.failure
  | none => shape.ofValue r

/-- Looking for a pair in a map without entries ends the call abruptly, before any answer or
failure. -/
def crashes (shape : Shape) (r : Reply) : Bool :=
  match shape, r with
  | optionalPair, .map [] => true
  | _, _ => false

end Shape

end RedisClient
