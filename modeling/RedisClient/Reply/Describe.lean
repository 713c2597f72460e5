import RedisClient.Binary64.Format
import RedisClient.Reply.Basic
import RedisClient.Text.Quoted

/-!
# Describing replies

Complaints about a reply of the wrong shape describe it in words: its kind, and in brackets what
it holds.
-/

namespace RedisClient

def VerbatimFormat.words : VerbatimFormat → String
  | text => "Text"
  | markdown => "Markdown"
  | unknown name => "Unknown(" ++ Text.quoted name ++ ")"

namespace Reply

def bracket (items : List String) : String := "[" ++ ", ".intercalate items ++ "]"

/-- A bulk reply: its text, or its bytes if they are not one. -/
def describeBulk (bytes : ByteArray) : String :=
  match String.fromUTF8? bytes with
  | some text => "bulk-string('" ++ Text.quoted text ++ "')"
  | none => "binary-data(" ++ bracket (bytes.toList.map fun b => toString b.toNat) ++ ")"

mutual

def describe : Reply → String
  | nil => "nil"
  | int n => "int(" ++ toString n.toInt ++ ")"
  | bulk bytes => describeBulk bytes
  | array items => "array(" ++ bracket (describeAll items) ++ ")"
  | okay => "ok"
  | simple text => "simple-string(" ++ Text.quoted text ++ ")"
  | map entries => "map(" ++ bracket (describePairs entries) ++ ")"
  | set items => "set(" ++ bracket (describeAll items) ++ ")"
  | double x => "double(" ++ Binary64.described.write x ++ ")"
  | flag b => "boolean(" ++ (if b then "true" else "false") ++ ")"
  | verbatim format text => "verbatim-string(" ++ format.words ++ "," ++ Text.quoted text ++ ")"
  | bigNumber n => "big-number(" ++ toString n ++ ")"
  | error e => e.failure.text

def describeAll : List Reply → List String
  | [] => []
  | r :: rest => describe r :: describeAll rest

def describePairs : List (Reply × Reply) → List String
  | [] => []
  | (key, value) :: rest =>
    ("(" ++ describe key ++ ", " ++ describe value ++ ")") :: describePairs rest

end

end Reply

end RedisClient
