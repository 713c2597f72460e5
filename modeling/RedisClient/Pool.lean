import RedisClient.Connection.Setup

/-!
# Connection pools

A pool lends its connections out one at a time each. Idle connections wait in a stack, so the one
given back last is lent first. A pool opens connections up to its capacity: for a borrower who
finds none idle, and to keep some ready. A connection that was closed is not taken back.

A direct connection is a pool of one that opens nothing and takes back everything.
-/

namespace RedisClient

/-- How many connections a pool has, and how many of them are idle. -/
structure PoolState where
  connections : UInt32
  idle : UInt32
deriving DecidableEq, Repr

def PoolState.inUse (s : PoolState) : UInt32 :=
  if s.idle ≤ s.connections then s.connections - s.idle else 0

/-- How a pool comes by its connections. -/
inductive Supply
  /-- There is one connection from the start, and never another. -/
  | single
  /-- Connections are opened on demand: at most `capacity`, and at least `ready` of them idle
  while that allows it. -/
  | elastic (capacity ready : Nat)
deriving DecidableEq, Repr

/-- The connections that are idle, and the number of those that are lent out. -/
structure Pool where
  supply : Supply
  idle : List Connection
  inUse : Nat
  /-- How many attempts to open a connection there have been. -/
  attempts : Nat

/-- How a connection is opened: the attempts have numbers. -/
abbrev Opener := Nat → Except Failure Connection

namespace Pool

/-- Why a borrower gets no connection. -/
inductive Exhausted
  /-- All are lent out. -/
  | allInUse
  /-- None could be opened. -/
  | notOpened (failure : Failure)
deriving DecidableEq, Repr

def Exhausted.words : Exhausted → String
  | allInUse => "timed out waiting for connection"
  | notOpened failure => "timed out waiting for connection: " ++ failure.text

/-- Why a borrower gets no connection, as callers see it (`translate_pool`). -/
def Exhausted.toError (e : Exhausted) : Error :=
  .resource ("could not borrow a pooled connection: " ++ e.words)

def capacity (p : Pool) : Nat :=
  match p.supply with
  | .single => 1
  | .elastic capacity _ => capacity

def size (p : Pool) : Nat := p.idle.length + p.inUse

/-- Opens up to `count` connections to have them ready, below those already idle. The first
failure ends it. -/
def openReady (opener : Opener) : Nat → Pool → Pool × Option Failure
  | 0, p => (p, none)
  | count + 1, p =>
    match opener p.attempts with
    | .error failure => ({ p with attempts := p.attempts + 1 }, some failure)
    | .ok c =>
      openReady opener count { p with idle := p.idle ++ [c], attempts := p.attempts + 1 }

/-- How many connections are to be opened to have enough of them ready. -/
def missing (p : Pool) : Nat :=
  match p.supply with
  | .single => 0
  | .elastic capacity ready => min (ready - p.idle.length) (capacity - p.size)

/-- Opens what is to be kept ready, as far as possible. -/
def refill (opener : Opener) (p : Pool) : Pool := (p.openReady opener p.missing).1

/-- Lends a connection out: the first idle one, or a new one, which there is one attempt to open. -/
def borrow (opener : Opener) (p : Pool) : Except (Exhausted × Pool) (Connection × Pool) :=
  match p.idle with
  | c :: idle => .ok (c, refill opener { p with idle, inUse := p.inUse + 1 })
  | [] =>
    if p.size < p.capacity && p.supply != .single then
      match opener p.attempts with
      | .error failure => .error (.notOpened failure, { p with attempts := p.attempts + 1 })
      | .ok c =>
        .ok (c, refill opener { p with inUse := p.inUse + 1, attempts := p.attempts + 1 })
    else .error (.allInUse, p)

/-- Whether a connection is taken back. For a single server that is what `has_broken` says; for a
cluster, whose connections mend themselves, a new connection stands for a mended one. -/
def keeps (p : Pool) (c : Connection) : Bool := c.isOpen || p.supply == .single

/-- Takes a lent connection back, or drops it if it was closed. -/
def giveBack (opener : Opener) (c : Connection) (p : Pool) : Pool :=
  if p.keeps c then { p with idle := c :: p.idle, inUse := p.inUse - 1 }
  else refill opener { p with inUse := p.inUse - 1 }

def ofConnection (c : Connection) : Pool := ⟨.single, [c], 0, 1⟩

/-- Opens a pool (`build_pool`): first what is to be kept ready, and one connection in any case. -/
def start (opener : Opener) (capacity ready : Nat) : Except Failure Pool :=
  match openReady opener (max 1 ready) ⟨.elastic capacity ready, [], 0, 0⟩ with
  | (_, some failure) => .error failure
  | (p, none) => .ok p

def state (p : Pool) : PoolState := ⟨UInt32.ofNat p.size, UInt32.ofNat p.idle.length⟩

end Pool

end RedisClient
