import RedisClient.Connector

/-!
# Sessions

A session is a run of steps on a connector: calls on a fresh or a held handle, handles held and
released, and a close at the end. Every step leaves a report. The session keeps the time, the
held handles, and the ways in which the connections it used had been set up.
-/

namespace RedisClient

inductive Step
  /-- Calls a method, on the handle in a slot or on a fresh one; the server responds as given. -/
  | call (slot : Option Nat) (call : Call) (response : Response)
  /-- Takes a handle and holds it in the next slot. -/
  | hold
  /-- Gives the handle in a slot back. -/
  | release (slot : Nat)
  | describe
  /-- Gives everything back and closes; the server responds to the goodbye as given. -/
  | close (response : Response)

inductive StepResult
  | called (outcome : Connector.Outcome)
  | held (slot : Nat)
  | notHeld (e : Error)
  /-- Whether the slot held anything. -/
  | released (held : Bool)
  | described (text : String)
  | closed
deriving DecidableEq

/-- What came of a step, what the server received because of it, what was logged, and how many
connections of a pool were in use after it. -/
structure Report where
  result : StepResult
  sent : List (List String) := []
  events : List Event := []
  inUse : Option UInt32 := none

structure Session where
  connector : Connector
  now : Nat := 0
  /-- The slots of held handles, with their connections. -/
  held : List (Nat × Connection) := []
  /-- The slot for the next handle held. -/
  nextSlot : Nat := 0
  /-- The different ways in which connections that received a command were set up, in order. -/
  setups : List (List (List String)) := []
  isClosed : Bool := false

namespace Session

/-- Adds a set-up to a sorted list, if it is new. -/
def addSetup (setup : List (List String)) : List (List (List String)) → List (List (List String))
  | [] => [setup]
  | s :: rest =>
    if setup = s then s :: rest
    else if setup < s then setup :: s :: rest
    else s :: addSetup setup rest

def inSlot? (s : Session) (slot : Nat) : Option Connection :=
  (s.held.find? (·.1 == slot)).map (·.2)

def vacate (s : Session) (slot : Nat) : Session :=
  { s with held := s.held.filter (·.1 != slot) }

/-- The session after a borrower has waited in vain. -/
def waited (s : Session) : Session := { s with now := s.now + s.connector.maxWait.nanos }

def inUse? (s : Session) : Option UInt32 := s.connector.poolState?.map PoolState.inUse

def giveBack (s : Session) (c : Connection) : Session :=
  { s with connector := s.connector.giveBack c }

/-- Runs a call on a borrowed connection, and gives it back. -/
def runOn (s : Session) (connection : Connection) (call : Call) (response : Response) :
    Report × Session :=
  let ran := Connector.runOn connection s.connector.mode.isPooled s.connector.readTimeout s.now
    call response
  let s := { s with
    now := ran.time
    setups := if ran.sent.isEmpty then s.setups else addSetup connection.reportedSetup s.setups }
  (⟨.called ran.outcome, ran.sent, ran.events, none⟩, s.giveBack ran.connection)

/-- Runs a call on a fresh handle. -/
def runFresh (s : Session) (call : Call) (response : Response) : Report × Session :=
  match s.connector.borrow with
  | .ok (connection, connector) => runOn { s with connector } connection call response
  | .error (e, connector) => ({ result := .called (.error e) }, waited { s with connector })

def hold (s : Session) : Report × Session :=
  match s.connector.borrow with
  | .ok (connection, connector) =>
    ({ result := .held s.nextSlot },
      { s with
        connector
        held := s.held ++ [(s.nextSlot, connection)]
        nextSlot := s.nextSlot + 1 })
  | .error (e, connector) => ({ result := .notHeld e }, waited { s with connector })

def release (s : Session) (slot : Nat) : Report × Session :=
  match s.inSlot? slot with
  | some connection => ({ result := .released true }, (s.vacate slot).giveBack connection)
  | none => ({ result := .released false }, s)

def releaseAll (s : Session) : Session :=
  s.held.foldl (fun s (slot, connection) => (s.vacate slot).giveBack connection) s

def close (s : Session) (response : Response) : Report × Session :=
  let s := s.releaseAll
  let closed := s.connector.close s.now response
  (⟨.closed, closed.sent, closed.events, none⟩, { s with isClosed := true })

/-- What a step does, without the count of connections in use. -/
def act (s : Session) : Step → Report × Session
  | .call slot call response =>
    match slot.bind fun n => (s.inSlot? n).map fun c => (n, c) with
    | some (n, connection) => (s.vacate n).runOn connection call response
    | none => s.runFresh call response
  | .hold => s.hold
  | .release slot => s.release slot
  | .describe => ({ result := .described s.connector.describe }, s)
  | .close response => s.close response

def step (s : Session) (t : Step) : Report × Session :=
  let (report, s) := s.act t
  (if s.isClosed then report else { report with inUse := s.inUse? }, s)

/-- Does steps up to the first that closes. -/
def run (s : Session) : List Step → List Report × Session
  | [] => ([], s)
  | t :: rest =>
    let (report, s) := s.step t
    if s.isClosed then ([report], s)
    else
      let (reports, s) := s.run rest
      (report :: reports, s)

end Session

end RedisClient
