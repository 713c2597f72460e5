import RedisClient.Error
import RedisClient.Text.Blank
import RedisClient.Text.Digits
import RedisClient.Text.Split

/-!
# Server addresses

An entry names a server as `host`, `host:port`, `[host]` or `[host]:port`, with blanks allowed
around each part. Without brackets the port follows the last colon, so a host may hold colons
itself. A host list is a list of entries separated by commas.
-/

namespace RedisClient

/-- A server: its host name or number, and its port (`ServerAddress`). -/
structure Address where
  host : String
  port : UInt16
deriving DecidableEq, Repr

namespace Address

def defaultPort : UInt16 := 6379

/-- Why an entry or a host list is refused; `entry` is the entry without its blank ends. -/
inductive Fault
  | blankList
  | emptyEntry
  | unclosedBracket (entry : String)
  | textAfterBracket (entry : String)
  | badPort (entry : String)
  | missingHost (entry : String)
deriving DecidableEq, Repr

def Fault.message : Fault → String
  | blankList => "host must not be empty"
  | emptyEntry => "empty host entry in host list"
  | unclosedBracket entry => "unclosed '[' in host entry '" ++ entry ++ "'"
  | textAfterBracket entry => "unexpected text after ']' in host entry '" ++ entry ++ "'"
  | badPort entry => "invalid port in host entry '" ++ entry ++ "'"
  | missingHost entry => "missing host name in host entry '" ++ entry ++ "'"

/-- A fault as callers see it: it lies in the configuration. -/
def Fault.toError (fault : Fault) : Error := .configuration fault.message

def text (a : Address) : String := a.host ++ ":" ++ toString a.port.toNat

/-- A port is a numeral up to 65535, after an optional `+` and between optional blanks. -/
def readPort? (s : List Char) : Option UInt16 :=
  (Text.readUnsigned? (Text.trim s)).bind fun n =>
    if n < UInt16.size then some (UInt16.ofNat n) else none

/-- The port in `s`; `entry` is blamed if there is none. -/
def portOf (entry : String) (s : List Char) : Except Fault UInt16 :=
  (readPort? s).elim (.error (.badPort entry)) .ok

/-- Host and port of a bracketed entry, given without its opening bracket. -/
def bracketed (entry : String) (s : List Char) : Except Fault (List Char × UInt16) :=
  match Text.cutFirst ']' s with
  | none => .error (.unclosedBracket entry)
  | some (host, []) => .ok (Text.trim host, defaultPort)
  | some (host, ':' :: rest) => (portOf entry rest).map fun p => (Text.trim host, p)
  | some _ => .error (.textAfterBracket entry)

def plain (entry : String) (s : List Char) : Except Fault (List Char × UInt16) :=
  match Text.cutLast ':' s with
  | none => .ok (s, defaultPort)
  | some (host, rest) => (portOf entry rest).map fun p => (Text.trim host, p)

/-- Host and port of an entry that has no blank ends. -/
def parts (entry : List Char) : Except Fault (List Char × UInt16) :=
  match entry with
  | '[' :: rest => bracketed (String.ofList entry) rest
  | _ => plain (String.ofList entry) entry

/-- Reads one entry of a host list (`ServerAddress::parse`). -/
def parseChars (s : List Char) : Except Fault Address :=
  let entry := Text.trim s
  if entry.isEmpty then .error .emptyEntry
  else
    match parts entry with
    | .error fault => .error fault
    | .ok ([], _) => .error (.missingHost (String.ofList entry))
    | .ok (host, port) => .ok ⟨String.ofList host, port⟩

def parse (entry : String) : Except Fault Address := parseChars entry.toList

/-- Reads a host list, in order; the first bad entry is reported (`parse_addresses`). -/
def parseList (hosts : String) : Except Fault (List Address) :=
  if Text.isBlankText hosts then .error .blankList
  else (hosts.toList.splitOn ',').mapM parseChars

end Address

end RedisClient
