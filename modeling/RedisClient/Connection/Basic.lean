import RedisClient.Duration
import RedisClient.Reply.Basic

/-!
# Connections

A connection carries commands to a server and replies back, in order, one reply for each command.
The server takes some time over each reply and answers one command after the other. A reply that
does not come within the read timeout is given up, but the connection stays open: the reply will
still come, and `skip` counts how many such replies are to be thrown away first. When the server
hangs up instead of replying, the connection is closed for good.

Times are nanoseconds since the start of the session.
-/

namespace RedisClient

/-- What a server does about a command. -/
inductive Reaction
  | reply (r : Reply)
  /-- The server closes the connection. -/
  | hangUp

/-- What a server does about a command, and after how many nanoseconds. -/
structure Response where
  reaction : Reaction
  delay : Nat := 0

/-- A response on its way to the client. -/
structure Arrival where
  time : Nat
  reaction : Reaction

/-- What a client tells a server when it sets a connection up. -/
inductive Greeting
  | auth (password : String)
  | select (database : Int64)
  /-- What software the client is. -/
  | setInfo
  | setName (name : String)
deriving DecidableEq, Repr

/-- The words of a greeting, unless it is about the software, which is not reported. -/
def Greeting.words? : Greeting → Option (List String)
  | auth password => some ["AUTH", password]
  | select database => some ["SELECT", toString database.toInt]
  | setInfo => none
  | setName name => some ["CLIENT", "SETNAME", name]

/-- A connection, as the client and the server see it. -/
structure Connection where
  /-- What set it up, in order. -/
  setup : List Greeting
  /-- How long a single read waits, if there is a limit. -/
  readTimeout : Option Duration
  /-- Whether the client still takes it for usable. -/
  isOpen : Bool := true
  /-- How many replies are to be thrown away before the next one counts. -/
  skip : Nat := 0
  /-- The responses that the client has not read, in order. -/
  inbox : List Arrival := []

namespace Connection

/-- The set-up of a connection in words, as far as it is reported. -/
def reportedSetup (c : Connection) : List (List String) := c.setup.filterMap Greeting.words?

/-- When the server is free for the next command. -/
def serverFree (c : Connection) (now : Nat) : Nat :=
  c.inbox.foldl (fun t a => max t a.time) now

/-- Whether the server has hung up, or is going to once it has dealt with earlier commands. -/
def hangsUp (c : Connection) : Bool :=
  c.inbox.any fun a => match a.reaction with
    | .hangUp => true
    | .reply _ => false

def endOfStream : Failure := .io "unexpected end of file"

def timedOut : Failure := .io "Resource temporarily unavailable (os error 11)"

def brokenPipe : Failure := .io "Broken pipe (os error 32)"

structure Read where
  result : Except Failure Reply
  time : Nat
  connection : Connection

/-- Whether a wait from `start` to `arrival` is too long for a read timeout. -/
def tooLate (timeout : Option Duration) (start arrival : Nat) : Bool :=
  match timeout with
  | none => false
  | some limit => limit.nanos ≤ arrival - start

/-- Waits for the reply to the last command: takes responses in order, throwing away those of
commands that were given up. Each of them is waited for anew. When there is no response at all,
nothing will ever come. -/
def readFrom (timeout : Option Duration) (setup : List Greeting) :
    Nat → Nat → List Arrival → Read
  | now, skip, [] => ⟨.error timedOut, now, ⟨setup, timeout, true, skip + 1, []⟩⟩
  | now, skip, a :: inbox =>
    if tooLate timeout now a.time then
      ⟨.error timedOut, now + (timeout.elim 0 Duration.nanos),
        ⟨setup, timeout, true, skip + 1, a :: inbox⟩⟩
    else
      match a.reaction, skip with
      | .hangUp, skip => ⟨.error endOfStream, max now a.time, ⟨setup, timeout, false, skip, inbox⟩⟩
      | .reply r, 0 => ⟨.ok r, max now a.time, ⟨setup, timeout, true, 0, inbox⟩⟩
      | .reply _, skip + 1 => readFrom timeout setup (max now a.time) skip inbox

def read (c : Connection) (now : Nat) : Read :=
  readFrom c.readTimeout c.setup now c.skip c.inbox

/-- The connection after a command has been sent at the time `now`, to which the server responds
as given. A server that hangs up does not get it. -/
def send (c : Connection) (now : Nat) (response : Response) : Connection :=
  if c.hangsUp then c
  else { c with inbox := c.inbox ++ [⟨c.serverFree now + response.delay, response.reaction⟩] }

/-- How an exchange ended: with a reply or a failure, when, whether the server got the command,
and what was left of the connection. -/
structure Exchange where
  result : Except Failure Reply
  time : Nat
  received : Bool
  connection : Connection

/-- Sends a command and waits for its reply. Nothing is sent on a closed connection. -/
def exchange (c : Connection) (now : Nat) (response : Response) : Exchange :=
  if c.isOpen then
    let r := (c.send now response).read now
    ⟨r.result, r.time, !c.hangsUp, r.connection⟩
  else ⟨.error brokenPipe, now, false, c⟩

end Connection

end RedisClient
