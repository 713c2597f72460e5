import RedisClient.Proofs.Connector.Calls
import RedisClient.Proofs.Connector.Connected
import RedisClient.Proofs.Session.Run

/-!
# The connections of a session

The settings of a connector stay what they were when it connected (`settings_invariant`), and a
property that new connections have and calls keep is one of all connections of a session, idle, held
or in hand (`every_invariant`). One such property is that a connection has the usual read timeout
and no reply on its way that is not accounted for (`run_inOrder`).
-/

namespace RedisClient

/-- The connection has the usual read timeout and is settled. -/
structure Connection.InOrder (usual : Option Duration) (c : Connection) : Prop where
  readTimeout : c.readTimeout = usual
  settled : c.Settled

namespace Session

variable {s : Session} {p : Pool} {connector : Connector} {P : Connection → Prop}

/-! ## Settings -/

/-- The session has the settings of the connector it started with. -/
structure Settings (connector : Connector) (s : Session) : Prop where
  mode : s.connector.mode = connector.mode
  opener : s.connector.opener = connector.opener
  readTimeout : s.connector.readTimeout = connector.readTimeout
  maxWait : s.connector.maxWait = connector.maxWait
  supply : s.connector.pool.supply = connector.pool.supply

theorem Settings.withPool (h : Settings connector s) (supply : p.supply = s.connector.pool.supply) :
    Settings connector (s.withPool p) :=
  ⟨h.mode, h.opener, h.readTimeout, h.maxWait, supply.trans h.supply⟩

theorem settings_invariant (connector : Connector) :
    Invariant fun _ => Settings connector where
  congr h eq _ _ := ⟨eq ▸ h.mode, eq ▸ h.opener, eq ▸ h.readTimeout, eq ▸ h.maxWait, eq ▸ h.supply⟩
  borrow h lent := h.withPool (Pool.borrow_lent lent).supply
  refuse h refused := h.withPool (Pool.borrow_refused refused).supply
  called _ _ _ h := h
  giveBack h := h.withPool (Pool.giveBack_takenBack _ _ _).supply
  putBy h := ⟨h.mode, h.opener, h.readTimeout, h.maxWait, h.supply⟩
  vacate _ h _ := ⟨h.mode, h.opener, h.readTimeout, h.maxWait, h.supply⟩

/-! ## Connections -/

/-- All connections have the property, whether they are idle, held or in hand. -/
structure Every (connector : Connector) (P : Connection → Prop) (hand : Option Connection)
    (s : Session) : Prop where
  settings : Settings connector s
  idle : ∀ d ∈ s.connector.pool.idle, P d
  held : ∀ n d, (n, d) ∈ s.held → P d
  hand : ∀ d, hand = some d → P d

/-- A property that new connections have is one of all connections, as far as it is up to the moves
that are no calls. -/
theorem every_moves
    (new : connector.pool.supply ≠ .single → ∀ {d}, Pool.New connector.opener d → P d) :
    Moves (Every connector P) := by
  have settings := settings_invariant connector
  have fresh {s : Session} {d : Connection} (h : Settings connector s)
      (opened : Pool.Opened s.connector.opener s.connector.pool d) : P d :=
    new (h.supply ▸ opened.several) (h.opener ▸ opened.new)
  constructor
  case congr =>
    intro hand s s' h connector held nextSlot
    exact ⟨settings.congr (h := hand) h.settings connector held nextSlot,
      connector ▸ h.idle, held ▸ h.held, h.hand⟩
  case borrow =>
    intro s c p h lent
    have moved := Pool.borrow_lent lent
    refine ⟨settings.borrow h.settings lent, fun d hd => ?_, h.held, ?_⟩
    · exact (moved.idle d hd).elim (h.idle d) (fresh h.settings)
    · rintro d ⟨⟩
      exact moved.origin.elim (h.idle c) (fresh h.settings)
  case refuse =>
    intro s e p h refused
    have same := Pool.borrow_refused refused
    have idle : ∀ d ∈ p.idle, P d := fun d hd => h.idle d (same.idle ▸ hd)
    exact ⟨settings.refuse h.settings refused, idle, h.held, h.hand⟩
  case giveBack =>
    intro s c h
    have moved := Pool.giveBack_takenBack s.connector.opener c s.connector.pool
    refine ⟨settings.giveBack (c := c) h.settings, fun d hd => ?_, h.held, by simp⟩
    rcases moved.idle d hd with ⟨rfl, -⟩ | idle | opened
    · exact h.hand d rfl
    · exact h.idle d idle
    · exact fresh h.settings opened
  case putBy =>
    intro s c h
    refine ⟨settings.putBy (c := c) h.settings, h.idle, fun n d hd => ?_, by simp⟩
    simp only [Session.putBy, List.mem_append, List.mem_singleton, Prod.mk.injEq] at hd
    rcases hd with hd | ⟨-, rfl⟩
    · exact h.held n d hd
    · exact h.hand d rfl
  case vacate =>
    intro s n c slotted h held
    refine ⟨settings.vacate slotted h.settings held, h.idle, fun m d hd => ?_, ?_⟩
    · exact h.held m d (List.mem_filter.1 hd).1
    · rintro d ⟨⟩
      exact h.held n c held

/-- A property that new connections have, and that calls keep, is one of all connections. -/
theorem every_invariant
    (new : connector.pool.supply ≠ .single → ∀ {d}, Pool.New connector.opener d → P d)
    (called : ∀ {d} now call response, P d →
      P (Connector.runOn d connector.mode.isPooled connector.readTimeout now call
        response).connection) : Invariant (Every connector P) where
  toMoves := every_moves new
  called {s c} now call response h := by
    refine ⟨h.settings, h.idle, h.held, ?_⟩
    rintro d ⟨⟩
    rw [h.settings.mode, h.settings.readTimeout]
    exact called now call response (h.hand c rfl)

variable {net : Network} {config : Config} {f : Factory} {d : Connection}

theorem new_inOrder (connected : Connector.Connected net config connector f)
    (opened : Pool.New connector.opener d) : d.InOrder connector.readTimeout :=
  ⟨connected.new_readTimeout opened, connected.new_settled opened⟩

/-- A connector that has connected starts with new connections, so a property of these is one of all
that there are. -/
theorem start_every (connected : Connector.Connected net config connector f)
    (new : ∀ {d}, Pool.New connector.opener d → P d) :
    Every connector P none (start connector) where
  settings := ⟨rfl, rfl, rfl, rfl, rfl⟩
  idle _ hd := new (connected.untouched.idle _ hd)
  held := by simp [start]
  hand := by simp

/-- After every run on a connector that has connected, its connections are in order. -/
theorem run_inOrder (connected : Connector.Connected net config connector f) (ts : List Step) :
    Every connector (Connection.InOrder connector.readTimeout) none ((start connector).run ts).2 ∧
      ((start connector).run ts).2.Slotted := by
  have invariant : Invariant (Every connector (Connection.InOrder connector.readTimeout)) :=
    every_invariant (fun _ => new_inOrder connected) fun now call response h =>
      ⟨Connector.runOn_readTimeout h.readTimeout, Connector.runOn_settled h.readTimeout h.settled⟩
  exact invariant.run ts (start_slotted connector) (start_every connected (new_inOrder connected))

/-! ## Calls -/

variable {slot : Option Nat} {s' : Session} {c : Connection}

/-- The connection that a call gets has the property if all have it. -/
theorem handle_every (new : ∀ {d}, Pool.New connector.opener d → P d) (h : Every connector P none s)
    (got : s.handle slot = .ok (c, s')) : P c ∧ Settings connector s' := by
  rcases handle_cases s slot with ⟨n, d, -, inSlot, eq⟩ | ⟨-, d, p, lent, eq⟩ | ⟨-, e, p, -, eq⟩ <;>
    rw [eq] at got <;> cases got
  · exact ⟨h.held n c (mem_held inSlot), h.settings.mode, h.settings.opener, h.settings.readTimeout,
      h.settings.maxWait, h.settings.supply⟩
  · refine ⟨?_, (settings_invariant connector).borrow h.settings lent⟩
    exact (Pool.borrow_lent lent).origin.elim (h.idle c)
      fun opened => new (h.settings.opener ▸ opened.new)

/-- What comes of a call that has its connection. -/
theorem call_ran (got : s.handle slot = .ok (c, s')) (settings : Settings connector s')
    (call : Call) (response : Response) :
    let ran := Connector.runOn c connector.mode.isPooled connector.readTimeout s'.now call response
    let after := s.act (.call slot call response)
    after.1 = ⟨.called ran.outcome, ran.sent, ran.events, none⟩ ∧
      after.2.connector = s'.connector.giveBack ran.connection ∧ after.2.held = s'.held := by
  rw [act_call, got, ← settings.mode, ← settings.readTimeout]
  exact ⟨rfl, rfl, rfl⟩

/-- A call that is not sent gives its connection back as it was, and does nothing else. -/
theorem call_unsent (got : s.handle slot = .ok (c, s')) {call : Call} {response : Response}
    {outcome : Connector.Outcome}
    (ran : Connector.runOn c s'.connector.mode.isPooled s'.connector.readTimeout s'.now call
      response = ⟨outcome, s'.now, [], [], c⟩) :
    s.act (.call slot call response) = (⟨.called outcome, [], [], none⟩, s'.giveBack c) := by
  rw [act_call, got]
  simp only [runOn, ran]
  rfl

end Session

end RedisClient
