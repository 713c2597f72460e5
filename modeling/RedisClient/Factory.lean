import RedisClient.Pool

/-!
# Factories

A factory opens connections: to a single server, or to a cluster through its seeds. It also
judges connections, by asking the server or by looking at what is known already.
-/

namespace RedisClient

/-- What opens connections (`StandaloneConnector`, `ClusterConnector`). -/
inductive Factory
  | standalone (target : Target)
  | cluster (seeds : Seeds)

namespace Factory

/-- The factory for a list of targets. A single server is the first of them
(`standalone_connector`). -/
def gather (cluster : Bool) (targets : List Target) : Except Error Factory :=
  if cluster then (Seeds.gather targets).map .cluster
  else
    match targets with
    | [] => .error (.configuration "no host configured")
    | first :: _ => .ok (.standalone first)

def opener (net : Network) : Factory → Opener
  | standalone target => openStandalone net target
  | cluster seeds => openCluster net seeds

/-- What is logged when the factory opens a connection. -/
def openEvent : Factory → Event
  | standalone target => .opening target.address
  | cluster seeds => .openingCluster seeds.targets.length

/-! ## Judging connections -/

/-- A connection that was asked: what came of it and when, what the server received, and what
was left of the connection. -/
structure Asked where
  result : Except Failure Unit
  time : Nat
  sent : List (List String)
  connection : Connection

/-- Sends a ping, and looks at the reply with `accept`. -/
def ping (accept : Reply → Except Failure Unit) (c : Connection) (now : Nat)
    (response : Response) : Asked :=
  let e := c.exchange now response
  ⟨e.result.bind accept, e.time, if e.received then [["PING"]] else [], e.connection⟩

/-- Any reply will do that holds no error. -/
def acceptAny (r : Reply) : Except Failure Unit :=
  match r.firstError? with
  | some e => .error e.failure
  | none => .ok ()

/-- Only a text will do. -/
def acceptText (r : Reply) : Except Failure Unit := (Shape.read .text r).map fun _ => ()

/-- Asks whether a connection works (`is_valid`). In a cluster, a node that does not answer with a
text is asked once more. -/
def isValid (f : Factory) (c : Connection) (now : Nat) (first second : Response) : Asked :=
  match f with
  | standalone _ => ping acceptAny c now first
  | cluster _ =>
    let asked := ping acceptText c now first
    match asked.result with
    | .ok () => asked
    | .error _ =>
      let again := ping acceptAny asked.connection asked.time second
      { again with sent := asked.sent ++ again.sent }

/-- Whether a connection is known to be of no use (`has_broken`). That is never known of a cluster
connection, which opens its way to a node anew. -/
def hasBroken (f : Factory) (c : Connection) : Bool :=
  match f with
  | standalone _ => !c.isOpen
  | cluster _ => false

end Factory

end RedisClient
