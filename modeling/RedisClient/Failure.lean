import RedisClient.Error
import RedisClient.Text.Split

/-!
# Failures below the connector

A failure is what a connection reports: a described problem of some kind, an error reply with a
code of its own, or an operating-system problem. `Failure.toError` and `Failure.toConnectError`
turn it into what callers see, during a command and while connecting.
-/

namespace RedisClient

inductive FailureKind
  | response | parse | authentication | type | execAbort | busyLoading | noScript
  | invalidClientConfig | moved | ask | tryAgain | clusterDown | crossSlot | masterDown | io
  | client | extension | readOnly | masterNameNotFound | noValidReplicas | emptySentinelList
  | notBusy | clusterConnectionNotFound | noSub | resp3NotSupported
deriving DecidableEq, Repr

namespace FailureKind

def name : FailureKind → String
  | response => "ResponseError"
  | parse => "ParseError"
  | authentication => "AuthenticationFailed"
  | type => "TypeError"
  | execAbort => "ExecAbortError"
  | busyLoading => "BusyLoadingError"
  | noScript => "NoScriptError"
  | invalidClientConfig => "InvalidClientConfig"
  | moved => "Moved"
  | ask => "Ask"
  | tryAgain => "TryAgain"
  | clusterDown => "ClusterDown"
  | crossSlot => "CrossSlot"
  | masterDown => "MasterDown"
  | io => "IoError"
  | client => "ClientError"
  | extension => "ExtensionError"
  | readOnly => "ReadOnly"
  | masterNameNotFound => "MasterNameNotFoundBySentinel"
  | noValidReplicas => "NoValidReplicasFoundBySentinel"
  | emptySentinelList => "EmptySentinelList"
  | notBusy => "NotBusy"
  | clusterConnectionNotFound => "ClusterConnectionNotFound"
  | noSub => "NoSub"
  | resp3NotSupported => "RESP3NotSupported"

def all : List FailureKind :=
  [response, parse, authentication, type, execAbort, busyLoading, noScript, invalidClientConfig,
   moved, ask, tryAgain, clusterDown, crossSlot, masterDown, io, client, extension, readOnly,
   masterNameNotFound, noValidReplicas, emptySentinelList, notBusy, clusterConnectionNotFound,
   noSub, resp3NotSupported]

def ofName? (name : String) : Option FailureKind := all.find? (·.name == name)

/-- The code with which servers report a kind, for the kinds that have one. -/
def code? : FailureKind → Option String
  | response => some "ERR"
  | execAbort => some "EXECABORT"
  | busyLoading => some "LOADING"
  | noScript => some "NOSCRIPT"
  | moved => some "MOVED"
  | ask => some "ASK"
  | tryAgain => some "TRYAGAIN"
  | clusterDown => some "CLUSTERDOWN"
  | crossSlot => some "CROSSSLOT"
  | masterDown => some "MASTERDOWN"
  | readOnly => some "READONLY"
  | notBusy => some "NOTBUSY"
  | _ => none

/-- The kind that the code of an error reply stands for. -/
def ofCode? (code : String) : Option FailureKind :=
  if code = "NOSUB" then some noSub else all.find? (·.code? == some code)

end FailureKind

/-- What a connection reports. -/
inductive Failure
  /-- A problem of some kind, described in fixed words and perhaps in detail. -/
  | described (kind : FailureKind) (description : String) (detail : Option String)
  /-- An error reply whose code is not one of the known ones. -/
  | extension (code detail : String)
  /-- A problem of the operating system or the network, in its words. -/
  | io (cause : String)
deriving DecidableEq, Repr

namespace Failure

def kind : Failure → FailureKind
  | described kind _ _ => kind
  | extension .. => .extension
  | io _ => .io

/-- The code that belongs to a failure. -/
def code? : Failure → Option String
  | described kind _ _ => kind.code?
  | extension code _ => some code
  | io _ => none

def detail? : Failure → Option String
  | described _ _ detail => detail
  | extension _ detail => some detail
  | io _ => none

def text : Failure → String
  | described kind description none => description ++ "- " ++ kind.name
  | described kind description (some detail) =>
    description ++ " - " ++ kind.name ++ ": " ++ detail
  | extension code detail => code ++ ": " ++ detail
  | io cause => cause

/-- What a caller is told that the server said: its own words where there are any
(`server_message`). -/
def serverMessage (f : Failure) : String :=
  match f.code?, f.detail? with
  | some code, some detail => code ++ " " ++ detail
  | none, some detail => detail
  | _, none => f.text

/-- The failure of a command, as callers see it (`translate`). -/
def toError (f : Failure) : Error :=
  match f.kind with
  | .invalidClientConfig => .configuration f.text
  | .type | .client => .unexpected f.text
  | _ => .server f.code? f.serverMessage

/-- The failure to connect, as callers see it; `context` says to what (`translate_init`). -/
def toConnectError (context : String) (f : Failure) : Error :=
  match f.kind with
  | .invalidClientConfig => .configuration (context ++ ": " ++ f.text)
  | _ => .initialization (context ++ ": " ++ f.text)

end Failure

/-! ## Error replies -/

/-- An error reply: a code, and the text after the first space if there is one. -/
structure ErrorReply where
  code : String
  detail : Option String
deriving DecidableEq, Repr

namespace ErrorReply

/-- Splits the line of an error reply. -/
def ofLine (line : String) : ErrorReply :=
  match Text.cutFirst ' ' line.toList with
  | some (code, detail) => ⟨String.ofList code, some (String.ofList detail)⟩
  | none => ⟨line, none⟩

/-- The failure that an error reply stands for. -/
def failure (e : ErrorReply) : Failure :=
  match FailureKind.ofCode? e.code with
  | some kind => .described kind "An error was signalled by the server" e.detail
  | none => .extension e.code (e.detail.getD "Unknown extension error encountered")

end ErrorReply

end RedisClient
