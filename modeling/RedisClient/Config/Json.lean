import RedisClient.Config.Basic
import RedisClient.Json.Record

/-!
# Configurations in JSON

Three records have a JSON form: addresses, pool limits and configurations. Each has a schema to
read it by and a writer that gives its fields in order.
-/

namespace RedisClient

open Json (Schema Field writeObject)

namespace Address

/-- Host and port are both required. -/
def schema : Schema Address where
  title := "ServerAddress"
  start := ⟨"", 0⟩
  fields := [
    .of "host" Json.text (fun a host => { a with host }) true,
    .of "port" Json.uint16 (fun a port => { a with port }) true]

def toJson (a : Address) : String :=
  writeObject [("host", Json.quote a.host), ("port", toString a.port.toNat)]

end Address

namespace PoolConfig

/-- Every limit has a default. -/
def schema : Schema PoolConfig where
  title := "PoolConfig"
  start := {}
  fields := [
    .of "maxSize" Json.uint32 fun p maxSize => { p with maxSize },
    .of "minIdle" Json.uint32 fun p minIdle => { p with minIdle },
    .of "maxWaitMillis" Json.uint64 fun p maxWaitMillis => { p with maxWaitMillis }]

def toJson (p : PoolConfig) : String :=
  writeObject [
    ("maxSize", toString p.maxSize.toNat),
    ("minIdle", toString p.minIdle.toNat),
    ("maxWaitMillis", toString p.maxWaitMillis.toNat)]

end PoolConfig

namespace Config

/-- Only the host list is required. -/
def schema : Schema Config where
  title := "ConnectorConfig"
  start := { host := "" }
  fields := [
    .of "host" Json.text (fun c host => { c with host }) true,
    .of "password" Json.textOrNull fun c password => { c with password },
    .of "database" Json.int64 fun c database => { c with database },
    .of "connectionTimeout" Json.int64 fun c connectionTimeout => { c with connectionTimeout },
    .of "clientName" Json.text fun c clientName => { c with clientName },
    .of "isClusterConnection" Json.flag fun c isClusterConnection => { c with isClusterConnection },
    .of "connectionPooling" Json.flag fun c connectionPooling => { c with connectionPooling },
    .of "ssl" Json.flag fun c ssl => { c with ssl },
    .of "startTls" Json.flag fun c startTls => { c with startTls },
    .of "verifyPeer" Json.flag fun c verifyPeer => { c with verifyPeer },
    .of "pool" PoolConfig.schema.read fun c pool => { c with pool }]

def toJson (c : Config) : String :=
  writeObject [
    ("host", Json.quote c.host),
    ("password", Json.writeTextOrNull c.password),
    ("database", toString c.database.toInt),
    ("connectionTimeout", toString c.connectionTimeout.toInt),
    ("clientName", Json.quote c.clientName),
    ("isClusterConnection", Json.writeFlag c.isClusterConnection),
    ("connectionPooling", Json.writeFlag c.connectionPooling),
    ("ssl", Json.writeFlag c.ssl),
    ("startTls", Json.writeFlag c.startTls),
    ("verifyPeer", Json.writeFlag c.verifyPeer),
    ("pool", c.pool.toJson)]

/-- Reads a configuration (`from_json`); a document without one is a failure of configuration. -/
def ofJson (document : String) : Except Error Config :=
  match schema.decode document with
  | .ok config => .ok config
  | .error fault => .error (.configuration ("malformed configuration: " ++ fault.message))

end Config

end RedisClient
