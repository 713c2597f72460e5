import RedisClient.Connection.Basic
import RedisClient.Reply.Convert
import RedisClient.Seeds

/-!
# Setting up connections

A new connection is set up before its first use: a password is given and a database selected
in one go, then a name is announced. In a cluster the database is never selected, and the new
connection has to answer a ping. What the server says to each of these commands decides whether
the connection can be used.
-/

namespace RedisClient

inductive SetupCommand
  | auth | select | setInfo | setName | ping
deriving DecidableEq, Repr

def Greeting.command : Greeting → SetupCommand
  | auth _ => .auth
  | select _ => .select
  | setInfo => .setInfo
  | setName _ => .setName

inductive Dial
  | accepted | refused | unreachable
deriving DecidableEq, Repr

/-- Everything beyond the connector: which addresses answer, and how each new connection is
received. Connections are numbered in the order of the attempts to open them; `run` counts from 0
how often the commands of a connection's first part have been sent before. -/
structure Network where
  dial : Address → Dial
  respond : (connection run : Nat) → SetupCommand → Response

structure SetupPlan where
  password : Option String
  /-- The database to select; number 0 needs no selecting. -/
  database : Int64
  clientName : Option String
  timeout : Option Duration
deriving DecidableEq, Repr

namespace SetupPlan

/-- What connections to a single server need. -/
def ofTarget (t : Target) : SetupPlan :=
  ⟨t.password, t.databaseIndex, t.clientName, t.effectiveTimeout⟩

/-- The greetings of the first part. -/
def firstPart (p : SetupPlan) : List Greeting :=
  (p.password.map Greeting.auth).toList ++ (if p.database ≠ 0 then [.select p.database] else []) ++
    [.setInfo, .setInfo]

def secondPart (p : SetupPlan) : List Greeting := (p.clientName.map Greeting.setName).toList

def badPassword : Failure := .described .authentication "Password authentication failed" none

/-- The failure of a server that neither takes nor refuses the password. -/
def oddPassword : Failure :=
  .described .response "Redis server refused to authenticate, returns Ok() != Value::Okay" none

def badDatabase (e : ErrorReply) : Failure :=
  .described .response "Redis server refused to switch database" e.failure.detail?

/-- Servers of another age complain so about a password. -/
def isArityComplaint (e : ErrorReply) : Bool :=
  (e.detail.getD "").contains "wrong number of arguments for 'auth' command"

inductive Verdict
  | accepted
  /-- The first part is to be sent once more. -/
  | again
  | refused (failure : Failure)

/-- What the answer to the password means. -/
def verdict (r : Reply) : Verdict :=
  match r with
  | .okay => .accepted
  | .error e => if isArityComplaint e then .again else .refused badPassword
  | _ => .refused oddPassword

def firstResponses (p : SetupPlan) (respond : SetupCommand → Response) : List Response :=
  p.firstPart.map fun g => respond g.command

/-- Whether the server hangs up before it has dealt with all of a list of commands. -/
def hangsUp (responses : List Response) : Bool :=
  responses.any fun r => match r.reaction with
    | .hangUp => true
    | .reply _ => false

/-- What the server's answers to password and database come to, for a server that stays on the
line. -/
def judgeDatabase (p : SetupPlan) (respond : SetupCommand → Response) : Except Failure Unit :=
  if p.database = 0 then .ok ()
  else
    match (respond .select).reaction with
    | .hangUp => .ok ()
    | .reply r =>
      match r.firstError? with
      | some e => .error (badDatabase e)
      | none => .ok ()

/-- The verdict on the password; without one there is nothing to refuse. -/
def judgePassword (p : SetupPlan) (respond : SetupCommand → Response) : Verdict :=
  match p.password, (respond .auth).reaction with
  | some _, .reply r => verdict r
  | _, _ => .accepted

/-- One run of the first part. What decides is the responses, however long they take. -/
def runFirst (p : SetupPlan) (respond : SetupCommand → Response) : Except Failure Bool :=
  if hangsUp (p.firstResponses respond) then .error Connection.endOfStream
  else
    match p.judgePassword respond with
    | .refused failure => .error failure
    | .again => .ok false
    | .accepted => (p.judgeDatabase respond).map fun _ => true

/-- Runs the first part, a second time if the server complains about the form of the password; a
second complaint is let pass. The result is what was sent. -/
def runFirstPart (p : SetupPlan) (respond : (run : Nat) → SetupCommand → Response) :
    Except Failure (List Greeting) :=
  match p.runFirst (respond 0) with
  | .error failure => .error failure
  | .ok true => .ok p.firstPart
  | .ok false => (p.runFirst (respond 1)).map fun _ => p.firstPart ++ p.firstPart

/-- The connection after the first part, with the read timeout in force, and then the announcement
of the name (`ConnectionTarget::open`). -/
def runSecondPart (p : SetupPlan) (response : Response) (sent : List Greeting) :
    Except Failure Connection :=
  let c : Connection := { setup := sent, readTimeout := p.timeout }
  match p.clientName with
  | none => .ok c
  | some _ =>
    let e := c.exchange 0 response
    match e.result with
    | .error failure => .error failure
    | .ok r =>
      match r.firstError? with
      | some error => .error error.failure
      | none => .ok { e.connection with setup := c.setup ++ p.secondPart }

end SetupPlan

/-! ## Opening -/

def Dial.failure? : Dial → Option Failure
  | accepted => none
  | refused => some (.io "Connection refused (os error 111)")
  | unreachable => some (.io "Network is unreachable (os error 101)")

def noEncryption : Failure :=
  .described .invalidClientConfig "Cannot connect to TCP with TLS without the tls feature" none

/-- Why a target cannot be reached. Encrypted transports fail before anything is dialed. -/
def Network.obstacle? (net : Network) (t : Target) : Option Failure :=
  match t.endpoint with
  | .tls .. => some noEncryption
  | .tcp .. => (net.dial t.address).failure?

/-- Opens a connection to a single server, with the number `serial`
(`StandaloneConnector::connect`). -/
def openStandalone (net : Network) (t : Target) (serial : Nat) : Except Failure Connection :=
  match net.obstacle? t with
  | some failure => .error failure
  | none =>
    let plan := SetupPlan.ofTarget t
    match plan.runFirstPart (net.respond serial) with
    | .error failure => .error failure
    | .ok sent => plan.runSecondPart (net.respond serial 0 .setName) sent

def noSeed : Failure := .described .io "It failed to check startup nodes." none

/-- What connections to the nodes of a cluster need; their database is 0. -/
def Seeds.plan (s : Seeds) : SetupPlan :=
  { SetupPlan.ofTarget s.first with database := 0 }

/-- Whether a new connection to a node answers a ping. -/
def answersPing (response : Response) : Bool :=
  match response.reaction with
  | .hangUp => false
  | .reply r =>
    match Shape.read .text r with
    | .ok _ => true
    | .error _ => false

/-- Opens a connection to a cluster, with the number `serial`, through the first seed that is of use
(`ClusterConnector::connect`). -/
def openCluster (net : Network) (s : Seeds) (serial : Nat) : Except Failure Connection :=
  let plan := s.plan
  let respond := net.respond serial
  let reached := s.targets.any fun t => (net.obstacle? t).isNone
  match reached && answersPing (respond 0 .ping), plan.runFirstPart respond with
  | true, .ok sent => plan.runSecondPart (respond 0 .setName) sent
  | _, _ => .error noSeed

end RedisClient
