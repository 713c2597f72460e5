import RedisClient.Command.Call
import RedisClient.Factory

/-!
# Connectors

A connector is built from a configuration and connects in one of four modes. It lends out a
connection for each command, takes it back when the command has ended in whatever way, and can be
closed. `Connector.connect` checks the configuration before anything is sent.
-/

namespace RedisClient

/-- A connector that has connected (`ConnectionManager`). -/
structure Connector where
  mode : Mode
  pool : Pool
  opener : Opener
  /-- The read timeout of idle connections. -/
  readTimeout : Option Duration
  /-- How long a borrower waits for a connection. -/
  maxWait : Duration

namespace Connector

/-! ## Connecting -/

structure Logged (α : Type) where
  value : α
  events : List Event

/-- The targets of a configuration's addresses (`for_addresses`). -/
def targets (config : Config) (addresses : List Address) : List Target :=
  addresses.map fun a => .build a config.usablePassword config.options

def targetEvents (config : Config) (addresses : List Address) : List Event :=
  addresses.flatMap fun a => Target.buildEvents a config.options

def poolFailure (failure : Failure) : Error :=
  .initialization ("connection pool: " ++ (Pool.Exhausted.notOpened failure).words)

/-- Opens the pool of a pooled mode (`build_pool`). -/
def openPool (opener : Opener) (limits : PoolConfig) : Logged (Except Error Pool) :=
  ⟨(Pool.start opener limits.maxSize.toNat limits.minIdle.toNat).mapError poolFailure,
    [.poolCreated limits.maxSize limits.minIdle]⟩

/-- Opens the connection of a direct mode; `context` says to what. -/
def openDirect (opener : Opener) (context : String) (event : Event) :
    Logged (Except Error Pool) :=
  ⟨match opener 0 with
    | .ok c => .ok (.ofConnection c)
    | .error failure => .error (failure.toConnectError context),
    [event]⟩

/-- Opens the connections that a mode has from the start. -/
def openBackend (net : Network) (config : Config) (factory : Factory) :
    Logged (Except Error Pool) :=
  let opener := factory.opener net
  if config.connectionPooling then openPool opener config.pool
  else
    match factory with
    | .standalone target => openDirect opener target.address.text factory.openEvent
    | .cluster _ => openDirect opener config.host factory.openEvent

/-- Why the targets are unusable. -/
def unsupported? (targets : List Target) : Option Error :=
  targets.findSome? fun t =>
    match t.checkSupported with
    | .ok () => none
    | .error e => some e

def connectTo (net : Network) (config : Config) (targets : List Target) :
    Logged (Except Error Connector) :=
  let connecting := Event.connecting config.host config.mode
  match Factory.gather config.isClusterConnection targets with
  | .error e => ⟨.error e, [connecting]⟩
  | .ok factory =>
    let opened := openBackend net config factory
    match opened.value with
    | .error e => ⟨.error e, connecting :: opened.events⟩
    | .ok pool =>
      ⟨.ok {
          mode := config.mode
          pool
          opener := factory.opener net
          readTimeout := targets.head?.bind Target.effectiveTimeout
          maxWait := config.pool.maxWait },
        connecting :: opened.events ++ [.connected config.mode]⟩

/-- Connects as configured (`ConnectionManager::connect`). Faults of the configuration are found
before anything is sent. -/
def connect (net : Network) (config : Config) : Logged (Except Error Connector) :=
  match config.validate with
  | .error fault => ⟨.error (.configuration fault.message), []⟩
  | .ok addresses =>
    let targets := targets config addresses
    let built := targetEvents config addresses
    match unsupported? targets with
    | some e => ⟨.error e, built⟩
    | none =>
      let connected := connectTo net config targets
      ⟨connected.value, built ++ connected.events⟩

/-! ## Borrowing and giving back -/

/-- What a pool shows of itself (`pool_state`); there is none in direct modes. -/
def poolState? (c : Connector) : Option PoolState :=
  if c.mode.isPooled then some c.pool.state else none

/-- Why a borrower gets no connection, as callers see it (`translate_pool`, `still_in_use`). -/
def exhausted (c : Connector) (e : Pool.Exhausted) : Error :=
  if c.mode.isPooled then e.toError
  else
    .resource ("shared connection still in use after " ++ c.maxWait.text ++
      "; release the previous command handle first")

/-- Lends a connection out (`lease`). -/
def borrow (c : Connector) : Except (Error × Connector) (Connection × Connector) :=
  match c.pool.borrow c.opener with
  | .ok (connection, pool) => .ok (connection, { c with pool })
  | .error (e, pool) => .error (c.exhausted e, { c with pool })

def giveBack (c : Connector) (connection : Connection) : Connector :=
  { c with pool := c.pool.giveBack c.opener connection }

/-- The connector in words: its mode, and its pool if it has one. -/
def describe (c : Connector) : String :=
  let pool :=
    match c.poolState? with
    | none => "None"
    | some s =>
      "Some(PoolState \x7b connections: " ++ toString s.connections.toNat ++
        ", idle_connections: " ++ toString s.idle.toNat ++ " \x7d)"
  "ConnectionManager \x7b mode: " ++ c.mode.name ++ ", pool: " ++ pool ++ " \x7d"

/-! ## Running a command -/

inductive Outcome
  | answer (a : Answer)
  | error (e : Error)
  /-- The call ends abruptly, without a result. -/
  | panic
deriving DecidableEq

/-- A call that has been run: how it ended and when, what the server received, what was logged,
and what was left of the connection. -/
structure Ran where
  outcome : Outcome
  time : Nat
  sent : List (List String)
  events : List Event
  connection : Connection

/-- What an exchange comes to for a method's kind of value. -/
def outcomeOf (shape : Shape) (result : Except Failure Reply) : Outcome :=
  match result with
  | .error failure => .error failure.toError
  | .ok r =>
    if shape.crashes r then .panic
    else
      match shape.read r with
      | .ok a => .answer a
      | .error failure => .error failure.toError

/-- The read timeout for a call: a command that may block gets its own time in addition, and no
limit if it may block for ever. There is none if the sum is too long to be a duration. -/
def widened? (base : Option Duration) (block : Option UInt64) : Option (Option Duration) :=
  match base, block with
  | none, _ => some none
  | some d, none => some (some d)
  | some d, some seconds =>
    if seconds = 0 then some none else (d.add? (.ofSeconds seconds)).map some

/-- Sends the command of a call that is not refused, and reads its answer (`Lease::query`). -/
def query (pooled : Bool) (connection : Connection) (now : Nat) (call : Call)
    (response : Response) : Ran :=
  let e := connection.exchange now response
  ⟨outcomeOf call.method.spec.shape e.result, e.time,
    if e.received then [call.command] else [],
    [.sending call.commandName pooled], e.connection⟩

/-- Runs a call on a borrowed connection. A refused argument ends it before anything is sent. A
command that may block changes the read timeout for its own time only: `query_blocking` widens it,
and the lease puts it back when it is dropped. -/
def runOn (connection : Connection) (pooled : Bool) (base : Option Duration) (now : Nat)
    (call : Call) (response : Response) : Ran :=
  match call.refusal? with
  | some e => ⟨.error e, now, [], [], connection⟩
  | none =>
    match call.blockSeconds? with
    | none => query pooled connection now call response
    | some seconds =>
      match widened? base (some seconds) with
      | none => ⟨.panic, now, [], [], connection⟩
      | some limit =>
        let ran := query pooled { connection with readTimeout := limit } now call response
        { ran with connection := { ran.connection with readTimeout := base } }

/-! ## Closing -/

/-- What closing came to: what the server received, and what was logged. -/
structure Closed where
  sent : List (List String)
  events : List Event

/-- Says goodbye on an idle direct connection. Whether the server answers makes no difference. -/
def sayGoodbye (connection : Connection) (now : Nat) (response : Response) : Closed :=
  let e := connection.exchange now response
  let failure? :=
    match e.result with
    | .error failure => some failure
    | .ok r => r.firstError?.map ErrorReply.failure
  ⟨if e.received then [["QUIT"]] else [], (failure?.map Event.quitFailed).toList⟩

/-- Closes a connector that has lent out nothing (`ConnectionManager::close`). -/
def close (c : Connector) (now : Nat) (response : Response) : Closed :=
  match c.mode, c.pool.idle with
  | .standaloneDirect, connection :: _ =>
    let closed := sayGoodbye connection now response
    { closed with events := .closing c.mode :: closed.events }
  | _, _ => ⟨[], [.closing c.mode]⟩

end Connector

end RedisClient
