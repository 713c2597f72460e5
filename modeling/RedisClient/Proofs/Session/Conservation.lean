import RedisClient.Proofs.Session.Connections

/-!
# Conservation of leases

After every run as many connections are in use as handles are held (`Balanced`). Which handles are
held can be read off the steps and what came of them (`openSlots`), so the count in use is the one
that a caller expects. When it reaches the limit, nobody gets a connection and nothing changes
(`act_full`); below the limit, a connection is lent if one is idle or can be opened (`act_granted`).
-/

namespace RedisClient

def StepResult.error? : StepResult → Option Error
  | .called (.error e) | .notHeld e => some e
  | _ => none

namespace Session

variable {s : Session} {connector : Connector} {t : Step} {p : Pool} {n : Nat} {net : Network}
  {config : Config}

/-! ## Handles, as a caller counts them -/

/-- The slots that hold a handle after a step, by what the step was and what came of it. -/
def slotsAfter (slots : List Nat) : Step → StepResult → List Nat
  | .hold, .held n => slots ++ [n]
  | .release n, _ => slots.erase n
  | .call (some n) _ _, _ => slots.erase n
  | .close _, _ => []
  | _, _ => slots

/-- The slots that hold a handle after the steps of a run. -/
def openSlots : List Nat → List (Step × Report) → List Nat
  | slots, [] => slots
  | slots, (t, r) :: rest => openSlots (slotsAfter slots t r.result) rest

theorem erase_slots (h : s.inSlot? n = none) : s.slots.erase n = s.slots :=
  List.erase_of_not_mem (not_mem_slots h)

theorem act_slots (slotted : s.Slotted) (t : Step) :
    (s.act t).2.slots = slotsAfter s.slots t (s.act t).1.result := by
  cases t with
  | call slot call response =>
    rw [act_call]
    rcases handle_cases s slot with ⟨n, c, rfl, inSlot, eq⟩ | ⟨fresh, c, p, lent, eq⟩ |
      ⟨fresh, e, p, refused, eq⟩ <;> rw [eq]
    · exact vacate_slots slotted n
    · cases slot with
      | none => rfl
      | some n => exact (erase_slots (fresh n rfl)).symm
    · cases slot with
      | none => rfl
      | some n => exact (erase_slots (fresh n rfl)).symm
  | hold =>
    simp only [act, hold]
    rcases borrow_cases s with ⟨c, p, lent, eq⟩ | ⟨e, p, refused, eq⟩ <;> rw [eq]
    · simp only [slots, slotsAfter, List.map_append, List.map_cons, List.map_nil]
    · rfl
  | release n =>
    simp only [act, release]
    cases inSlot : s.inSlot? n with
    | some c => exact vacate_slots slotted n
    | none => exact (erase_slots inSlot).symm
  | describe => rfl
  | close response =>
    simp only [act, close, slots, releaseAll_held slotted, slotsAfter, List.map_nil]

theorem run_slots (slotted : s.Slotted) (ts : List Step) :
    (s.run ts).2.slots = openSlots s.slots (ts.zip (s.run ts).1) := by
  induction ts generalizing s with
  | nil => rfl
  | cons t ts ih =>
    have slots := act_slots slotted t
    cases closed : (s.step t).2.isClosed with
    | true =>
      rw [run_cons_closed closed]
      simpa [openSlots] using slots
    | false =>
      rw [run_cons_open closed]
      simp only [List.zip_cons_cons, openSlots, step_result, ← slots]
      exact ih (act_slotted slotted t)

/-! ## Connections in use -/

/-- As many connections are in use as are held or in hand. -/
structure Balanced (hand : Option Connection) (s : Session) : Prop where
  sound : s.connector.pool.Sound
  inUse : s.connector.pool.inUse = s.held.length + hand.toList.length

theorem balanced_invariant : Invariant Balanced where
  congr h connector held _ := ⟨connector ▸ h.sound, by rw [connector, held]; exact h.inUse⟩
  borrow h lent := by
    refine ⟨Pool.borrow_sound h.sound lent, ?_⟩
    have inUse := (Pool.borrow_lent lent).inUse
    rw [h.inUse] at inUse
    exact inUse
  refuse h refused := by
    have same := Pool.borrow_refused refused
    exact ⟨same.sound h.sound, same.inUse.trans h.inUse⟩
  called _ _ _ h := ⟨h.sound, h.inUse⟩
  giveBack {s c} h := by
    have inUse := h.inUse
    simp only [Option.toList_some, List.length_singleton] at inUse
    refine ⟨Pool.giveBack_sound h.sound (by omega), ?_⟩
    have back := (Pool.giveBack_takenBack s.connector.opener c s.connector.pool).inUse
    rw [inUse] at back
    exact back
  putBy {s c} h := by
    refine ⟨h.sound, ?_⟩
    simp only [Session.putBy, List.length_append]
    exact h.inUse
  vacate {s n c} slotted h held := by
    refine ⟨h.sound, ?_⟩
    have left : (s.vacate n).slots.length = s.slots.length - 1 := by
      rw [vacate_slots slotted, List.length_erase_of_mem (mem_slots held)]
    have some := List.length_pos_of_mem (mem_slots held)
    simp only [slots, List.length_map] at left some
    have inUse := h.inUse
    simp only [Option.toList_none, Option.toList_some, List.length_nil, List.length_singleton]
      at inUse ⊢
    rw [left]
    simp only [Session.vacate]
    omega

/-- How many connections are lent out: what the pool says of itself, or whether the one direct
connection is. -/
def leased (s : Session) : Nat :=
  match s.connector.poolState? with
  | some state => state.inUse.toNat
  | none => s.connector.pool.inUse

theorem state_inUse {p : Pool} (small : p.size < 2 ^ 32) : p.state.inUse.toNat = p.inUse := by
  have idle : p.idle.length < 2 ^ 32 := by
    simp only [Pool.size] at small
    omega
  have connections : p.state.connections.toNat = p.size := UInt32.toNat_ofNat_of_lt' small
  have idle : p.state.idle.toNat = p.idle.length := UInt32.toNat_ofNat_of_lt' idle
  have le : p.state.idle ≤ p.state.connections := by
    rw [UInt32.le_iff_toNat_le, connections, idle, Pool.size]
    omega
  rw [PoolState.inUse, if_pos le, UInt32.toNat_sub_of_le _ _ le, connections, idle, Pool.size]
  omega

theorem handleLimit_lt (config : Config) : config.handleLimit < 2 ^ 32 := by
  unfold Config.handleLimit
  split
  · exact config.pool.maxSize.toNat_lt
  · decide

/-- What the pool says of itself is right, since there are never too many connections to count. -/
theorem leased_eq (sound : s.connector.pool.Sound) (small : s.connector.pool.capacity < 2 ^ 32) :
    s.leased = s.connector.pool.inUse := by
  unfold leased Connector.poolState?
  split
  · rename_i state eq
    split at eq
    · cases eq
      exact state_inUse (Nat.lt_of_le_of_lt sound.size_le small)
    · cases eq
  · rfl

/-! ## Acquisitions -/

def Acquires (s : Session) : Step → Prop
  | .hold => True
  | .call slot _ _ => s.Fresh slot
  | _ => False

/-- A connection could be opened now: the server accepts it and its set-up. -/
def CanOpen (c : Connector) : Prop := ∃ d, c.opener c.pool.attempts = .ok d

instance (c : Connector) : Decidable (CanOpen c) :=
  decidable_of_iff ((c.opener c.pool.attempts).isOk = true) (by
    unfold CanOpen
    cases c.opener c.pool.attempts <;> simp [Except.isOk, Except.toBool])

theorem exhausted_resource (c : Connector) (e : Pool.Exhausted) :
    ∃ message, c.exhausted e = .resource message := by
  unfold Connector.exhausted
  split
  · exact ⟨_, rfl⟩
  · exact ⟨_, rfl⟩

theorem act_refused {e : Pool.Exhausted} (h : s.connector.pool.borrow s.connector.opener =
    .error (e, p)) (acquires : s.Acquires t) :
    (s.act t).2 = (s.withPool p).waited ∧ (s.act t).1.sent = [] ∧
      (s.act t).1.result.error? = some (s.connector.exhausted e) := by
  cases t with
  | hold =>
    have held : s.act .hold =
        ({ result := .notHeld (s.connector.exhausted e) }, (s.withPool p).waited) := by
      simp only [act, hold, borrow_error h]
      rfl
    rw [held]
    exact ⟨rfl, rfl, rfl⟩
  | call slot call response =>
    rw [act_call, handle_fresh acquires, borrow_error h]
    exact ⟨rfl, rfl, rfl⟩
  | release | describe | close => exact acquires.elim

/-- At the limit an acquisition fails, nothing is sent, and nothing changes but the time. -/
theorem act_full (sound : s.connector.pool.Sound)
    (full : s.connector.pool.inUse = s.connector.pool.capacity) (acquires : s.Acquires t) :
    (s.act t).2 = s.waited ∧ (s.act t).1.sent = [] ∧
      ∃ message, (s.act t).1.result.error? = some (.resource message) := by
  obtain ⟨waited, sent, error⟩ := act_refused (Pool.borrow_full sound full) acquires
  obtain ⟨message, resource⟩ := exhausted_resource s.connector .allInUse
  rw [resource] at error
  exact ⟨waited, sent, message, error⟩

/-- The step got a connection: a handle is held, or a call ran on one to whatever end. -/
inductive Granted (s : Session) : Step → StepResult → Prop
  | held : Granted s .hold (.held s.nextSlot)
  | called {slot call response outcome c s'} (got : s.handle slot = .ok (c, s'))
    (ran : ∀ message, outcome ≠ .error (.resource message)) :
    Granted s (.call slot call response) (.called outcome)

/-- Below the limit an acquisition succeeds. -/
theorem act_granted {f : Factory} (connected : Connector.Connected net config connector f)
    (inOrder : Every connector (Connection.InOrder connector.readTimeout) none s)
    (sound : s.connector.pool.Sound)
    (room : s.connector.pool.inUse < s.connector.pool.capacity)
    (opens : s.connector.pool.supply ≠ .single → CanOpen s.connector) (acquires : s.Acquires t) :
    s.Granted t (s.act t).1.result := by
  obtain ⟨c, p, lent⟩ := Pool.borrow_granted sound room opens
  cases t with
  | hold =>
    have held : (s.act .hold).1.result = .held s.nextSlot := by
      simp only [act, hold, borrow_ok lent]
    rw [held]
    exact .held
  | call slot call response =>
    have got : s.handle slot = .ok (c, s.withPool p) := by
      rw [handle_fresh acquires, borrow_ok lent]
      rfl
    obtain ⟨ordered, settings⟩ := handle_every (new_inOrder connected) inOrder got
    rw [act_call, got]
    refine .called got fun message => ?_
    rw [settings.readTimeout]
    exact Connector.runOn_ne_resource ordered.readTimeout message
  | release | describe | close => exact acquires.elim

/-! ## Conservation -/

/-- After every run, as many connections are in use as handles were taken and not given back, and
never more than the limit. At the limit whoever asks for one gets an error, nothing is sent, and the
session stays as it was; below it whoever asks gets one, if the pool can open one. -/
theorem leases_conserved (connected : (Connector.connect net config).value = .ok connector)
    (ts : List Step) :
    let run := (start connector).run ts
    let s := run.2
    let slots := openSlots [] (ts.zip run.1)
    s.leased = slots.length ∧ slots.length ≤ config.handleLimit ∧
    ∀ t, s.Acquires t →
      (slots.length = config.handleLimit →
        (∃ message, (s.step t).1.result.error? = some (.resource message)) ∧
        (s.step t).1.sent = [] ∧ (s.step t).2 = s.waited) ∧
      (slots.length < config.handleLimit →
        (config.connectionPooling = true → CanOpen s.connector) →
        s.Granted t (s.step t).1.result) := by
  obtain ⟨f, connected⟩ := Connector.connect_ok connected
  have untouched := connected.untouched
  obtain ⟨inOrder, slotted⟩ := run_inOrder connected ts
  obtain ⟨balanced, -⟩ := balanced_invariant.run ts (start_slotted connector)
    ⟨untouched.sound, untouched.inUse⟩
  have slots := run_slots (start_slotted connector) ts
  have room : ((start connector).run ts).2.connector.pool.capacity = config.handleLimit := by
    rw [← untouched.capacity, Pool.capacity, Pool.capacity, inOrder.settings.supply]
  have count : (openSlots [] (ts.zip ((start connector).run ts).1)).length =
      ((start connector).run ts).2.connector.pool.inUse := by
    rw [show [] = (start connector).slots from rfl, ← slots, balanced.inUse, Session.slots,
      List.length_map]
    rfl
  refine ⟨?_, ?_, fun t acquires => ⟨fun full => ?_, fun below opens => ?_⟩⟩
  · rw [count]
    exact leased_eq balanced.sound (room ▸ handleLimit_lt config)
  · rw [count, ← room]
    exact Pool.inUse_le balanced.sound
  · rw [count, ← room] at full
    obtain ⟨waited, sent, error⟩ := act_full balanced.sound full acquires
    rw [step_result, step_sent, step_snd]
    exact ⟨error, sent, waited⟩
  · rw [count, ← room] at below
    rw [step_result]
    refine act_granted connected inOrder balanced.sound below (fun several => opens ?_) acquires
    rw [inOrder.settings.supply, ne_eq, untouched.single] at several
    simpa using several

/-- A pool of one connection lends it to the first who asks, and to nobody else. -/
theorem leases_conserved_single :
    ∃ connector, (Connector.connect .obliging
      { host := "cache", connectionPooling := true, pool := { maxSize := 1 } }).value =
        .ok connector ∧
      (start connector).Granted .hold ((start connector).step .hold).1.result ∧
      ((start connector).run [.hold]).2.leased = 1 ∧
      ((((start connector).run [.hold]).2).step .hold).1.sent = [] := by
  have connected : (Connector.connect .obliging
    { host := "cache", connectionPooling := true, pool := { maxSize := 1 } }).value = .ok _ := rfl
  obtain ⟨-, -, first⟩ := leases_conserved connected []
  obtain ⟨leased, -, second⟩ := leases_conserved connected [.hold]
  have room := (first .hold trivial).2 (by decide) fun _ => ⟨_, rfl⟩
  have full := (second .hold trivial).1 rfl
  exact ⟨_, rfl, room, leased, full.2.1⟩

end Session

end RedisClient
