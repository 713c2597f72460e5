/-!
# Failures seen by callers

Every operation of the library fails with an `Error`: a class, and a text that says what went
wrong. `Error.text` is the text with the fixed opening words of its class.
-/

namespace RedisClient

/-- The class of command argument that was refused. -/
inductive ArgumentKind
  | key | keys | arguments | password
deriving DecidableEq, Repr

def ArgumentKind.name : ArgumentKind → String
  | .key => "key"
  | .keys => "keys"
  | .arguments => "arguments"
  | .password => "password"

/-- What an operation fails with (`ConnectorError`). -/
inductive Error
  /-- The settings are unusable; nothing was sent. -/
  | configuration (message : String)
  /-- No connection could be established. -/
  | initialization (message : String)
  /-- A command argument was refused; nothing was sent. -/
  | argument (kind : ArgumentKind) (message : String)
  /-- The server answered with an error, or the connection failed. -/
  | server (code : Option String) (message : String)
  /-- No connection was free in time. -/
  | resource (message : String)
  /-- Anything else, such as a reply of the wrong shape. -/
  | unexpected (message : String)
deriving DecidableEq, Repr

namespace Error

/-- The words that open the text of every failure on the server's side. -/
def serverOpening : String := "Redis server error: "

def text : Error → String
  | configuration message => "Invalid configuration: " ++ message
  | initialization message => "Initialization failed: " ++ message
  | argument kind message => "Invalid " ++ kind.name ++ ": " ++ message
  | server _ message => serverOpening ++ message
  | resource message => "Pool error: " ++ message
  | unexpected message => "Connector error: " ++ message

def isConfiguration : Error → Bool
  | configuration _ => true
  | _ => false

def isArgument : Error → Bool
  | argument .. => true
  | _ => false

def isServer : Error → Bool
  | server .. => true
  | _ => false

def isResource : Error → Bool
  | resource _ => true
  | _ => false

def argumentKind? : Error → Option ArgumentKind
  | argument kind _ => some kind
  | _ => none

/-- The code of the server's error reply, if it sent one. -/
def serverCode? : Error → Option String
  | server code _ => code
  | _ => none

end Error

end RedisClient
