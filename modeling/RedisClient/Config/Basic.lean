import RedisClient.Address
import RedisClient.Duration
import RedisClient.Mode

/-!
# Configuration

A configuration is a flat record in which some values stand for "not set": a negative database
or timeout, a blank password or client name. `Config.options` and `Config.usablePassword` turn
these into options that are there or not; `Config.validate` finds what is unusable.
-/

namespace RedisClient

structure PoolConfig where
  /-- How many connections there may be. -/
  maxSize : UInt32 := 8
  /-- How many idle connections are kept ready. -/
  minIdle : UInt32 := 1
  /-- How long a borrower waits for a connection, in milliseconds. -/
  maxWaitMillis : UInt64 := 30000
deriving DecidableEq, Repr

/-- What a connector is built from (`ConnectorConfig`). -/
structure Config where
  /-- The host list. -/
  host : String
  password : Option String := none
  /-- The database, or a negative number for none. -/
  database : Int64 := -1
  /-- Milliseconds for connecting and for each reply, or a negative number for no limit. -/
  connectionTimeout : Int64 := -1
  clientName : String := ""
  isClusterConnection : Bool := false
  connectionPooling : Bool := false
  ssl : Bool := false
  startTls : Bool := false
  verifyPeer : Bool := false
  pool : PoolConfig := {}
deriving DecidableEq, Repr

/-- Options of a single connection (`ConnectionOptions`); what is not set is left to the server. -/
structure Options where
  database : Option Int64 := none
  timeout : Option Duration := none
  clientName : Option String := none
  ssl : Bool := false
  startTls : Bool := false
  verifyPeer : Bool := false
deriving DecidableEq, Repr

/-- Why a configuration is refused. -/
inductive ConfigFault
  | poolEmpty
  | poolIdleAboveSize (minIdle maxSize : UInt32)
  | poolWaitZero
  | severalHosts
  | address (fault : Address.Fault)
deriving DecidableEq, Repr

def ConfigFault.message : ConfigFault → String
  | poolEmpty => "pool maxSize must be greater than zero"
  | poolIdleAboveSize minIdle maxSize =>
    "pool minIdle (" ++ toString minIdle.toNat ++ ") must not exceed maxSize (" ++
      toString maxSize.toNat ++ ")"
  | poolWaitZero => "pool maxWaitMillis must be greater than zero"
  | severalHosts => "multiple hosts not supported for standalone connections"
  | address fault => fault.message

/-- A present text that is not blank. -/
def unlessBlank (t : Option String) : Option String := t.filter fun s => !Text.isBlankText s

/-- A present text without its blank ends, if something is left of it. -/
def trimmedUnlessBlank (t : Option String) : Option String :=
  (t.map Text.trimmed).filter fun s => !s.isEmpty

namespace PoolConfig

def maxWait (p : PoolConfig) : Duration := .ofMillis p.maxWaitMillis

/-- A pool holds at least one connection, keeps no more ready than it may hold, and lets its
borrowers wait (`PoolConfig::validate`). -/
def validate (p : PoolConfig) : Except ConfigFault Unit :=
  if p.maxSize = 0 then .error .poolEmpty
  else if p.maxSize < p.minIdle then .error (.poolIdleAboveSize p.minIdle p.maxSize)
  else if p.maxWaitMillis = 0 then .error .poolWaitZero
  else .ok ()

end PoolConfig

namespace Config

/-! ## Setting fields -/

def withPassword (c : Config) (password : String) : Config := { c with password := some password }

def withDatabase (c : Config) (database : Int64) : Config := { c with database }

/-- The configuration with a timeout, in whole milliseconds and at most the greatest number of them
(`with_connection_timeout`). -/
def withConnectionTimeout (c : Config) (timeout : Duration) : Config :=
  { c with
    connectionTimeout :=
      if timeout.millis < 2 ^ 63 then Int64.ofNat timeout.millis else Int64.maxValue }

def withClientName (c : Config) (name : String) : Config := { c with clientName := name }

def withCluster (c : Config) (cluster : Bool) : Config := { c with isClusterConnection := cluster }

def withPooling (c : Config) (pooling : Bool) : Config := { c with connectionPooling := pooling }

def withTls (c : Config) (ssl startTls verifyPeer : Bool) : Config :=
  { c with ssl, startTls, verifyPeer }

def withPoolConfig (c : Config) (pool : PoolConfig) : Config := { c with pool }

/-! ## What the fields mean -/

def mode (c : Config) : Mode := .select c.isClusterConnection c.connectionPooling

/-- The password, unless it is blank (`ConnectorConfig::password`). -/
def usablePassword (c : Config) : Option String := unlessBlank c.password

/-- The options that are set (`ConnectorConfig::options`). -/
def options (c : Config) : Options where
  database := if 0 ≤ c.database then some c.database else none
  timeout := if 0 ≤ c.connectionTimeout then some (.ofMillis c.connectionTimeout.toUInt64) else none
  clientName := trimmedUnlessBlank (some c.clientName)
  ssl := c.ssl
  startTls := c.startTls
  verifyPeer := c.verifyPeer

/-- The addresses of the host list; a single server has one (`ConnectorConfig::addresses`). -/
def addresses (c : Config) : Except ConfigFault (List Address) :=
  match Address.parseList c.host with
  | .error fault => .error (.address fault)
  | .ok addresses =>
    if !c.isClusterConnection && addresses.length > 1 then .error .severalHosts
    else .ok addresses

/-- The addresses, if the pool limits are usable as well (`ConnectorConfig::validate`). Limits count
only with a pool. -/
def validate (c : Config) : Except ConfigFault (List Address) :=
  match if c.connectionPooling then c.pool.validate else .ok () with
  | .error fault => .error fault
  | .ok () => c.addresses

end Config

end RedisClient
