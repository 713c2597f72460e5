import RedisClient.Address
import RedisClient.Failure
import RedisClient.Mode

/-!
# Logged events

What the connector does is logged as events. An event has a level, a message and named fields,
and holds neither passwords nor the arguments of commands.
-/

namespace RedisClient

inductive Level
  | trace | debug | info | warn
deriving DecidableEq, Repr

def Level.name : Level → String
  | trace => "TRACE"
  | debug => "DEBUG"
  | info => "INFO"
  | warn => "WARN"

/-- Something worth logging. -/
inductive Event
  | startTlsUseless (address : Address)
  | targetBuilt (address : Address) (ssl verifyPeer : Bool)
  | connecting (hosts : String) (mode : Mode)
  | opening (address : Address)
  | openingCluster (seeds : Nat)
  | poolCreated (maxSize minIdle : UInt32)
  | connected (mode : Mode)
  | sending (command : String) (pooled : Bool)
  | closing (mode : Mode)
  | quitFailed (failure : Failure)
deriving DecidableEq, Repr

namespace Event

def truth (b : Bool) : String := if b then "true" else "false"

def level : Event → Level
  | startTlsUseless _ | quitFailed _ => .warn
  | targetBuilt .. | opening _ | openingCluster _ | poolCreated .. | connected _ => .debug
  | connecting .. | closing _ => .info
  | sending .. => .trace

def message : Event → String
  | startTlsUseless address =>
    "startTls has no effect for " ++ address.text ++ " because ssl is disabled"
  | targetBuilt address ssl verifyPeer =>
    "Built connection target " ++ address.text ++ " (ssl: " ++ truth ssl ++ ", verify peer: " ++
      truth verifyPeer ++ ")"
  | connecting hosts mode => "Connecting to Redis at " ++ hosts ++ " (" ++ mode.name ++ ")"
  | opening address => "Opening connection to " ++ address.text
  | openingCluster seeds =>
    "Opening cluster connection from " ++ toString seeds ++ " seed nodes"
  | poolCreated maxSize minIdle =>
    "Creating connection pool (max size: " ++ toString maxSize.toNat ++ ", min idle: " ++
      toString minIdle.toNat ++ ")"
  | connected mode => "Connected in " ++ mode.name ++ " mode"
  | sending command _ => "Sending " ++ command
  | closing mode => "Closing Redis connector (" ++ mode.name ++ ")"
  | quitFailed failure => "QUIT failed while closing connection: " ++ failure.text

def fields : Event → List (String × String)
  | sending _ pooled => [("pooled", truth pooled)]
  | _ => []

end Event

end RedisClient
