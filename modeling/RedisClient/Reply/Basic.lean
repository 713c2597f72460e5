import RedisClient.Binary64.Basic
import RedisClient.Failure

/-!
# Replies

A reply is a value of the server's protocol: a scalar, an aggregate of replies, or an error. An
error may stand inside an aggregate; `Reply.firstError?` finds the first one in reading order.
-/

namespace RedisClient

/-- The format of a text that the server wants shown as it is. -/
inductive VerbatimFormat
  | text
  | markdown
  | unknown (name : String)
deriving DecidableEq, Repr

def VerbatimFormat.ofName : String → VerbatimFormat
  | "txt" => text
  | "mkd" => markdown
  | name => unknown name

inductive Reply
  | nil
  | int (n : Int64)
  | bulk (bytes : ByteArray)
  | array (items : List Reply)
  | okay
  | simple (text : String)
  | map (entries : List (Reply × Reply))
  | set (items : List Reply)
  | double (x : Binary64)
  | flag (b : Bool)
  | verbatim (format : VerbatimFormat) (text : String)
  | bigNumber (n : Int)
  | error (e : ErrorReply)

namespace Reply

/-- A line of text; the line `OK` is the acknowledgement. -/
def line (text : String) : Reply := if text = "OK" then okay else simple text

def ofText (s : String) : Reply := .bulk s.toByteArray

mutual

/-- The first error in a reply, in reading order. -/
def firstError? : Reply → Option ErrorReply
  | error e => some e
  | array items | set items => firstErrorIn? items
  | map entries => firstErrorAmong? entries
  | _ => none

def firstErrorIn? : List Reply → Option ErrorReply
  | [] => none
  | r :: rest => (firstError? r).or (firstErrorIn? rest)

def firstErrorAmong? : List (Reply × Reply) → Option ErrorReply
  | [] => none
  | (key, value) :: rest =>
    ((firstError? key).or (firstError? value)).or (firstErrorAmong? rest)

end

end Reply

end RedisClient
