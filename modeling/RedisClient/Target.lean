import RedisClient.Config.Basic
import RedisClient.Event

/-!
# Connection targets

A target says everything about one endpoint: its address, the password, and the options of each
connection. Building a target drops values that mean "not set", so a target built from another
target's own values is the same.
-/

namespace RedisClient

/-- One endpoint, with what each connection to it needs (`ConnectionTarget`). -/
structure Target where
  address : Address
  password : Option String
  database : Option Int64
  timeout : Option Duration
  clientName : Option String
  ssl : Bool
  startTls : Bool
  verifyPeer : Bool
deriving DecidableEq, Repr

/-- The transport to an endpoint. -/
inductive Endpoint
  | tcp (host : String) (port : UInt16)
  /-- An encrypted transport; `insecure` skips the check of the server's certificate. -/
  | tls (host : String) (port : UInt16) (insecure : Bool)
deriving DecidableEq, Repr

structure ConnectionInfo where
  endpoint : Endpoint
  database : Int64
  password : Option String
deriving DecidableEq, Repr

namespace Target

/-- The target for an address (`ConnectionTarget::new`). -/
def build (address : Address) (password : Option String) (options : Options) : Target where
  address
  password := unlessBlank password
  database := options.database.filter (0 ≤ ·)
  timeout := options.timeout
  clientName := trimmedUnlessBlank options.clientName
  ssl := options.ssl
  startTls := options.startTls
  verifyPeer := options.verifyPeer

def buildEvents (address : Address) (options : Options) : List Event :=
  (if options.startTls && !options.ssl then [.startTlsUseless address] else []) ++
    [.targetBuilt address options.ssl options.verifyPeer]

/-- The options that a target was built from, as far as they count. -/
def options (t : Target) : Options :=
  ⟨t.database, t.timeout, t.clientName, t.ssl, t.startTls, t.verifyPeer⟩

/-- The time limit of a connection; no time at all means no limit (`effective_timeout`). -/
def effectiveTimeout (t : Target) : Option Duration := t.timeout.filter fun d => !d.isZero

def databaseIndex (t : Target) : Int64 := t.database.getD 0

/-- The transport to the target (`connection_addr`). -/
def endpoint (t : Target) : Endpoint :=
  if t.ssl then .tls t.address.host t.address.port (!t.verifyPeer)
  else .tcp t.address.host t.address.port

/-- What the first contact with the target needs (`connection_info`). -/
def connectionInfo (t : Target) : ConnectionInfo := ⟨t.endpoint, t.databaseIndex, t.password⟩

/-- Encrypted transports are not available (`ensure_supported`). -/
def checkSupported (t : Target) : Except Error Unit :=
  match t.endpoint with
  | .tcp .. => .ok ()
  | .tls .. =>
    .error (.configuration ("ssl requested for " ++ t.address.text ++
      " but TLS support is not compiled in (enable the `tls` feature)"))

end Target

end RedisClient
