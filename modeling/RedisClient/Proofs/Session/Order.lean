import RedisClient.Proofs.Connector.Opening
import RedisClient.Proofs.Connector.Outcomes
import RedisClient.Proofs.Session.Conservation

/-!
# Order in a session

What is true of all sessions of a connector that has connected is collected in `Orderly`: all
connections have been set up completely and have nothing unaccounted on their way, those that a pool
keeps idle are open, and none is lost track of. Runs keep a session orderly (`run_orderly`). So a
fresh lease from a pool is always one of an open connection (`fresh_isOpen`).
-/

namespace RedisClient.Session

variable {s s' : Session} {c d : Connection} {connector : Connector} {slot : Option Nat}
  {plan : SetupPlan} {net : Network} {config : Config} {f : Factory} {hand : Option Connection}

/-- All connections are in order and completely set up, idle ones are open where others can be
opened instead, and none is lost track of. -/
structure Orderly (connector : Connector) (plan : SetupPlan) (hand : Option Connection)
    (s : Session) : Prop where
  every : Every connector (fun d => d.InOrder connector.readTimeout ∧ plan.Complete d.setup) hand s
  isOpen : connector.pool.supply ≠ .single → ∀ d ∈ s.connector.pool.idle, d.isOpen = true
  balanced : Balanced hand s

theorem new_clean (connected : Connector.Connected net config connector f)
    (new : Pool.New connector.opener d) : d.Clean :=
  Factory.new_clean (connected.opener ▸ new)

theorem new_complete (connected : Connector.Connected net config connector f)
    (new : Pool.New connector.opener d) : f.plan.Complete d.setup :=
  Factory.new_complete (connected.opener ▸ new)

theorem orderly_invariant (connected : Connector.Connected net config connector f) :
    Invariant (Orderly connector f.plan) := by
  have every : Invariant (Every connector fun d =>
      d.InOrder connector.readTimeout ∧ f.plan.Complete d.setup) := by
    refine every_invariant (fun _ d new => ⟨new_inOrder connected new, new_complete connected new⟩)
      fun now call response h => ⟨⟨?_, ?_⟩, ?_⟩
    · exact Connector.runOn_readTimeout h.1.readTimeout
    · exact Connector.runOn_settled h.1.readTimeout h.1.settled
    · rw [Connector.runOn_setup h.1.readTimeout]
      exact h.2
  have balanced := balanced_invariant
  have isOpen {s : Session} {d : Connection} (settings : Settings connector s)
      (opened : Pool.Opened s.connector.opener s.connector.pool d) : d.isOpen = true :=
    (new_clean connected (settings.opener ▸ opened.new)).isOpen
  constructor
  case called =>
    intro s c now call response h
    exact ⟨every.called now call response h.every, h.isOpen,
      balanced.called now call response h.balanced⟩
  constructor
  case congr =>
    intro hand s s' h connector held nextSlot
    exact ⟨every.congr h.every connector held nextSlot, connector ▸ h.isOpen,
      balanced.congr h.balanced connector held nextSlot⟩
  case borrow =>
    intro s c p h lent
    refine ⟨every.borrow h.every lent, fun several d hd => ?_, balanced.borrow h.balanced lent⟩
    rcases (Pool.borrow_lent lent).idle d hd with idle | opened
    · exact h.isOpen several d idle
    · exact isOpen h.every.settings opened
  case refuse =>
    intro s e p h refused
    refine ⟨every.refuse h.every refused, fun several d hd => ?_,
      balanced.refuse h.balanced refused⟩
    exact h.isOpen several d ((Pool.borrow_refused refused).idle ▸ hd)
  case giveBack =>
    intro s c h
    refine ⟨every.giveBack h.every, fun several d hd => ?_, balanced.giveBack h.balanced⟩
    rcases (Pool.giveBack_takenBack _ c _).idle d hd with ⟨rfl, kept⟩ | idle | opened
    · have supply : s.connector.pool.supply ≠ .single := h.every.settings.supply ▸ several
      rwa [Pool.keeps_of_several supply] at kept
    · exact h.isOpen several d idle
    · exact isOpen h.every.settings opened
  case putBy =>
    intro s c h
    exact ⟨every.putBy h.every, h.isOpen, balanced.putBy h.balanced⟩
  case vacate =>
    intro s n c slotted h held
    exact ⟨every.vacate slotted h.every held, h.isOpen, balanced.vacate slotted h.balanced held⟩

theorem start_orderly (connected : Connector.Connected net config connector f) :
    Orderly connector f.plan none (start connector) := by
  have untouched := connected.untouched
  refine ⟨start_every connected fun new => ?_, fun _ d hd => ?_,
    ⟨untouched.sound, untouched.inUse⟩⟩
  · exact ⟨new_inOrder connected new, new_complete connected new⟩
  · exact (new_clean connected (untouched.idle d hd)).isOpen

theorem run_orderly (connected : Connector.Connected net config connector f) (ts : List Step) :
    Orderly connector f.plan none ((start connector).run ts).2 ∧
      ((start connector).run ts).2.Slotted :=
  (orderly_invariant connected).run ts (start_slotted connector) (start_orderly connected)

/-! ## Leases -/

/-- What a pool lends afresh is open. -/
theorem fresh_isOpen (connected : Connector.Connected net config connector f)
    (orderly : Orderly connector plan none s) (several : connector.pool.supply ≠ .single)
    (fresh : s.Fresh slot) (got : s.handle slot = .ok (d, s')) : d.isOpen = true := by
  rcases handle_cases s slot with ⟨n, d, rfl, inSlot, -⟩ | ⟨-, d, p, lent, eq⟩ | ⟨-, e, p, -, eq⟩
  · rw [fresh n rfl] at inSlot
    cases inSlot
  · rw [eq] at got
    cases got
    rcases (Pool.borrow_lent lent).origin with idle | opened
    · exact orderly.isOpen several d idle
    · have new := opened.new
      rw [orderly.every.settings.opener] at new
      exact (new_clean connected new).isOpen
  · rw [eq] at got
    cases got

/-- A call needs no more than one connection to spare, or one that can be opened. -/
theorem handle_granted (sound : s.connector.pool.Sound)
    (room : s.connector.pool.inUse < s.connector.pool.capacity)
    (opens : s.connector.pool.supply ≠ .single → CanOpen s.connector) (slot : Option Nat) :
    ∃ d s', s.handle slot = .ok (d, s') := by
  obtain ⟨d, q, granted⟩ := Pool.borrow_granted sound room opens
  rcases handle_cases s slot with ⟨n, d, -, -, eq⟩ | ⟨-, d, p, -, eq⟩ | ⟨-, e, p, refused, -⟩
  · exact ⟨d, _, eq⟩
  · exact ⟨d, _, eq⟩
  · rw [granted] at refused
    cases refused

/-- What a call gets can be tested. -/
theorem handle_exists {p : Connection → Session → Prop} [∀ c s, Decidable (p c s)]
    (h : (s.handle slot).toOption.any (fun got => p got.1 got.2) = true) :
    ∃ c s', s.handle slot = .ok (c, s') ∧ p c s' := by
  cases got : s.handle slot with
  | error e => simp [got, Except.toOption] at h
  | ok pair => exact ⟨pair.1, pair.2, rfl, by simpa [got, Except.toOption] using h⟩

/-! ## Calls -/

/-- A call leaves one connection more to spare than there were while it ran. -/
theorem call_inUse (got : s.handle slot = .ok (c, s')) (call : Call) (response : Response) :
    let after := (s.act (.call slot call response)).2.connector.pool
    after.inUse = s'.connector.pool.inUse - 1 ∧ after.supply = s'.connector.pool.supply := by
  rw [act_call, got]
  have back := Pool.giveBack_takenBack s'.connector.opener (Connector.runOn c
    s'.connector.mode.isPooled s'.connector.readTimeout s'.now call response).connection
    s'.connector.pool
  exact ⟨back.inUse, back.supply⟩

end RedisClient.Session
