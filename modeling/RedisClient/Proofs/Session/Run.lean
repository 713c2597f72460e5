import RedisClient.Proofs.Pool.Lending
import RedisClient.Session

/-!
# Runs of sessions

What a step can do to a session, and what follows from it for whole runs. A call takes a connection
in hand, uses it and gives it back (`act_call`, `handle_cases`); all other steps move connections
between the pool and the slots. `Invariant` lists what has to be shown of a property that is about
the connections in the pool, in the slots and in hand; `Invariant.run` then has it after every run.
`Moves` is the part of it that is not about calls, for properties that only some calls keep
(`Moves.run`). `run_report` finds the step behind every report of a run.
-/

namespace RedisClient

namespace Session

variable {s s' : Session} {c : Connection} {p : Pool} {n : Nat} {slot : Option Nat} {t : Step}
  {call : Call} {response : Response}

def start (c : Connector) : Session := { connector := c }

def withPool (s : Session) (p : Pool) : Session :=
  { s with connector := { s.connector with pool := p } }

/-- The session with a connection in the next slot. -/
def putBy (s : Session) (c : Connection) : Session :=
  { s with held := s.held ++ [(s.nextSlot, c)], nextSlot := s.nextSlot + 1 }

/-! ## Steps -/

/-- The connection that a call runs on, and the session without it: the connection in the slot if
there is one, else a borrowed one. -/
def handle (s : Session) (slot : Option Nat) :
    Except (Error × Connector) (Connection × Session) :=
  match slot.bind fun n => (s.inSlot? n).map fun c => (n, c) with
  | some (n, c) => .ok (c, s.vacate n)
  | none =>
    match s.connector.borrow with
    | .ok (c, connector) => .ok (c, { s with connector })
    | .error e => .error e

/-- Nothing is held in the slot, or there is none: the call takes a fresh handle. -/
def Fresh (s : Session) (slot : Option Nat) : Prop := ∀ n, slot = some n → s.inSlot? n = none

theorem act_call (s : Session) (slot : Option Nat) (call : Call) (response : Response) :
    s.act (.call slot call response) =
      match s.handle slot with
      | .ok (c, s) => s.runOn c call response
      | .error (e, connector) =>
        ({ result := .called (.error e) }, waited { s with connector }) := by
  simp only [act, handle, runFresh]
  cases slot.bind fun n => (s.inSlot? n).map fun c => (n, c) with
  | some pair => rfl
  | none => cases s.connector.borrow <;> rfl

theorem borrow_ok (h : s.connector.pool.borrow s.connector.opener = .ok (c, p)) :
    s.connector.borrow = .ok (c, (s.withPool p).connector) := by
  simp only [Connector.borrow, h, withPool]

theorem borrow_error {e : Pool.Exhausted}
    (h : s.connector.pool.borrow s.connector.opener = .error (e, p)) :
    s.connector.borrow = .error (s.connector.exhausted e, (s.withPool p).connector) := by
  simp only [Connector.borrow, h, withPool]

/-- A borrowing connector takes the connection from its pool. -/
theorem borrow_cases (s : Session) :
    (∃ c p, s.connector.pool.borrow s.connector.opener = .ok (c, p) ∧
      s.connector.borrow = .ok (c, (s.withPool p).connector)) ∨
    (∃ e p, s.connector.pool.borrow s.connector.opener = .error (e, p) ∧
      s.connector.borrow = .error (s.connector.exhausted e, (s.withPool p).connector)) := by
  cases h : s.connector.pool.borrow s.connector.opener with
  | ok pair => exact .inl ⟨pair.1, pair.2, rfl, borrow_ok h⟩
  | error pair => exact .inr ⟨pair.1, pair.2, rfl, borrow_error h⟩

theorem handle_held (h : s.inSlot? n = some c) : s.handle (some n) = .ok (c, s.vacate n) := by
  simp only [handle, Option.bind_some, h, Option.map_some]

theorem handle_fresh (h : s.Fresh slot) :
    s.handle slot =
      match s.connector.borrow with
      | .ok (c, connector) => .ok (c, { s with connector })
      | .error e => .error e := by
  cases slot with
  | none => rfl
  | some n => simp only [handle, Option.bind_some, h n rfl, Option.map_none]

/-- How a call can come by its connection. -/
theorem handle_cases (s : Session) (slot : Option Nat) :
    (∃ n c, slot = some n ∧ s.inSlot? n = some c ∧ s.handle slot = .ok (c, s.vacate n)) ∨
    (s.Fresh slot ∧ ∃ c p, s.connector.pool.borrow s.connector.opener = .ok (c, p) ∧
      s.handle slot = .ok (c, s.withPool p)) ∨
    (s.Fresh slot ∧ ∃ e p, s.connector.pool.borrow s.connector.opener = .error (e, p) ∧
      s.handle slot = .error (s.connector.exhausted e, (s.withPool p).connector)) := by
  by_cases fresh : s.Fresh slot
  · right
    rw [handle_fresh fresh]
    rcases borrow_cases s with ⟨c, p, lent, eq⟩ | ⟨e, p, refused, eq⟩ <;> rw [eq]
    · exact .inl ⟨fresh, c, p, lent, rfl⟩
    · exact .inr ⟨fresh, e, p, refused, rfl⟩
  · left
    simp only [Fresh, Classical.not_forall, exists_prop] at fresh
    obtain ⟨n, rfl, inSlot⟩ := fresh
    obtain ⟨c, inSlot⟩ := Option.ne_none_iff_exists'.1 inSlot
    exact ⟨n, c, rfl, inSlot, handle_held inSlot⟩

@[simp] theorem step_snd (s : Session) (t : Step) : (s.step t).2 = (s.act t).2 := rfl

@[simp] theorem step_result (s : Session) (t : Step) :
    (s.step t).1.result = (s.act t).1.result := by
  simp only [step]
  split <;> rfl

@[simp] theorem step_sent (s : Session) (t : Step) : (s.step t).1.sent = (s.act t).1.sent := by
  simp only [step]
  split <;> rfl

@[simp] theorem step_events (s : Session) (t : Step) :
    (s.step t).1.events = (s.act t).1.events := by
  simp only [step]
  split <;> rfl

/-! ## Slots -/

def slots (s : Session) : List Nat := s.held.map Prod.fst

/-- No slot holds two handles, and the next slot is a new one. -/
structure Slotted (s : Session) : Prop where
  nodup : s.slots.Nodup
  lt : ∀ n ∈ s.slots, n < s.nextSlot

theorem start_slotted (c : Connector) : (start c).Slotted := ⟨.nil, by simp [slots, start]⟩

theorem Slotted.congr (h : s.Slotted) (held : s'.held = s.held)
    (nextSlot : s'.nextSlot = s.nextSlot) : s'.Slotted := by
  have slots : s'.slots = s.slots := by rw [slots, slots, held]
  exact ⟨slots ▸ h.nodup, by rw [slots, nextSlot]; exact h.lt⟩

theorem mem_held (h : s.inSlot? n = some c) : (n, c) ∈ s.held := by
  simp only [inSlot?, Option.map_eq_some_iff] at h
  obtain ⟨⟨m, d⟩, found, rfl⟩ := h
  have mem := List.mem_of_find?_eq_some found
  have eq := List.find?_some found
  simp only [beq_iff_eq] at eq
  rwa [eq] at mem

theorem not_mem_slots (h : s.inSlot? n = none) : n ∉ s.slots := by
  simp only [inSlot?, Option.map_eq_none_iff, List.find?_eq_none, beq_iff_eq] at h
  simp only [slots, List.mem_map, not_exists, not_and]
  exact h

theorem mem_slots (h : (n, c) ∈ s.held) : n ∈ s.slots := List.mem_map.2 ⟨_, h, rfl⟩

theorem vacate_slots (h : s.Slotted) (n : Nat) : (s.vacate n).slots = s.slots.erase n := by
  rw [h.nodup.erase_eq_filter]
  simp only [vacate, slots, List.filter_map]
  rfl

theorem vacate_slotted (h : s.Slotted) (n : Nat) : (s.vacate n).Slotted := by
  constructor
  · rw [vacate_slots h]
    exact h.nodup.erase n
  · intro m hm
    rw [vacate_slots h] at hm
    exact h.lt m (List.mem_of_mem_erase hm)

theorem vacate_first {rest : List (Nat × Connection)} (h : s.Slotted)
    (first : s.held = (n, c) :: rest) : (s.vacate n).held = rest := by
  have apart := h.nodup
  simp only [slots, first, List.map_cons, List.nodup_cons, List.mem_map, not_exists, not_and]
    at apart
  have others : rest.filter (fun entry => entry.1 != n) = rest :=
    List.filter_eq_self.2 fun entry mem => by simpa using apart.1 entry mem
  simp only [vacate, first, List.filter_cons, bne_self_eq_false, Bool.false_eq_true, if_false]
  exact others

theorem putBy_slotted (h : s.Slotted) (c : Connection) : (s.putBy c).Slotted := by
  have slots : (s.putBy c).slots = s.slots ++ [s.nextSlot] := by
    simp [Session.slots, putBy]
  constructor
  · rw [slots, List.nodup_append]
    refine ⟨h.nodup, by simp, fun m hm k hk => ?_⟩
    rw [List.mem_singleton.1 hk]
    exact Nat.ne_of_lt (h.lt m hm)
  · intro m hm
    rw [slots, List.mem_append, List.mem_singleton] at hm
    simp only [putBy]
    rcases hm with hm | rfl
    · have := h.lt m hm
      omega
    · omega

/-! ## Invariants -/

/-- A property of sessions and of what is in hand, which is neither idle nor held: it depends on the
connector, the slots and the connection in hand, and no single move breaks it that is no call. -/
structure Moves (I : Option Connection → Session → Prop) : Prop where
  congr : ∀ {h s s'}, I h s → s'.connector = s.connector → s'.held = s.held →
    s'.nextSlot = s.nextSlot → I h s'
  borrow : ∀ {s c p}, I none s → s.connector.pool.borrow s.connector.opener = .ok (c, p) →
    I (some c) (s.withPool p)
  refuse : ∀ {s e p}, I none s → s.connector.pool.borrow s.connector.opener = .error (e, p) →
    I none (s.withPool p)
  giveBack : ∀ {s c}, I (some c) s → I none (s.giveBack c)
  putBy : ∀ {s c}, I (some c) s → I none (s.putBy c)
  vacate : ∀ {s n c}, s.Slotted → I none s → (n, c) ∈ s.held → I (some c) (s.vacate n)

/-- No call breaks the property either. -/
structure Invariant (I : Option Connection → Session → Prop) : Prop extends Moves I where
  called : ∀ {s c} now call response, I (some c) s →
    I (some (Connector.runOn c s.connector.mode.isPooled s.connector.readTimeout now call
      response).connection) s

variable {I : Option Connection → Session → Prop}

/-- What a call has in hand when it starts. -/
theorem Moves.handle (moves : Moves I) (slotted : s.Slotted) (h : I none s)
    (got : s.handle slot = .ok (c, s')) : I (some c) s' := by
  rcases handle_cases s slot with ⟨n, d, -, inSlot, eq⟩ | ⟨-, d, p, lent, eq⟩ | ⟨-, e, p, -, eq⟩ <;>
    rw [eq] at got <;> cases got
  · exact moves.vacate slotted h (mem_held inSlot)
  · exact moves.borrow h lent

theorem handle_slotted (slotted : s.Slotted) (got : s.handle slot = .ok (c, s')) : s'.Slotted := by
  rcases handle_cases s slot with ⟨n, d, -, -, eq⟩ | ⟨-, d, p, -, eq⟩ | ⟨-, e, p, -, eq⟩ <;>
    rw [eq] at got <;> cases got
  · exact vacate_slotted slotted n
  · exact slotted.congr rfl rfl

/-- What is left to be given back is always what is still held. -/
theorem Moves.releaseAll (moves : Moves I) (slotted : s.Slotted) (h : I none s) :
    I none s.releaseAll ∧ s.releaseAll.held = [] ∧ s.releaseAll.Slotted := by
  let giveBackOne (s : Session) (entry : Nat × Connection) := (s.vacate entry.1).giveBack entry.2
  suffices key : ∀ (held : List (Nat × Connection)) (s : Session), s.held = held → s.Slotted →
      I none s → I none (held.foldl giveBackOne s) ∧ (held.foldl giveBackOne s).held = [] ∧
        (held.foldl giveBackOne s).Slotted from key s.held s rfl slotted h
  intro held
  induction held with
  | nil => exact fun s eq slotted h => ⟨h, eq, slotted⟩
  | cons entry rest ih =>
    obtain ⟨n, c⟩ := entry
    intro s eq slotted h
    have mem : (n, c) ∈ s.held := by simp [eq]
    exact ih ((s.vacate n).giveBack c) (vacate_first slotted eq)
      ((vacate_slotted slotted n).congr rfl rfl) (moves.giveBack (moves.vacate slotted h mem))

/-- What no single move breaks, no step breaks, if the call of the step does not break it. -/
theorem Moves.act (moves : Moves I) (slotted : s.Slotted) (h : I none s) (t : Step)
    (called : ∀ slot call response c s', t = .call slot call response →
      s.handle slot = .ok (c, s') → I (some c) s' → I (some (Connector.runOn c
        s'.connector.mode.isPooled s'.connector.readTimeout s'.now call response).connection) s') :
    I none (s.act t).2 ∧ (s.act t).2.Slotted := by
  cases t with
  | call slot call response =>
    rw [act_call]
    cases got : s.handle slot with
    | ok pair =>
      obtain ⟨c, s'⟩ := pair
      have ran := called slot call response c s' rfl got (moves.handle slotted h got)
      exact ⟨moves.congr (moves.giveBack ran) rfl rfl rfl,
        (handle_slotted slotted got).congr rfl rfl⟩
    | error pair =>
      rcases handle_cases s slot with ⟨n, d, -, -, eq⟩ | ⟨-, d, p, -, eq⟩ |
        ⟨-, e, p, refused, eq⟩ <;> rw [eq] at got <;> cases got
      exact ⟨moves.congr (moves.refuse h refused) rfl rfl rfl, slotted.congr rfl rfl⟩
  | hold =>
    simp only [Session.act, hold]
    rcases borrow_cases s with ⟨c, p, lent, eq⟩ | ⟨e, p, refused, eq⟩ <;> rw [eq]
    · have moved : (s.withPool p).Slotted := slotted.congr rfl rfl
      exact ⟨moves.putBy (moves.borrow h lent), putBy_slotted moved c⟩
    · exact ⟨moves.congr (moves.refuse h refused) rfl rfl rfl, slotted.congr rfl rfl⟩
  | release slot =>
    simp only [Session.act, release]
    cases inSlot : s.inSlot? slot with
    | some c =>
      exact ⟨moves.giveBack (moves.vacate slotted h (mem_held inSlot)),
        (vacate_slotted slotted slot).congr rfl rfl⟩
    | none => exact ⟨h, slotted⟩
  | describe => exact ⟨h, slotted⟩
  | close response =>
    obtain ⟨kept, -, slotted⟩ := moves.releaseAll slotted h
    exact ⟨moves.congr kept rfl rfl rfl, slotted.congr rfl rfl⟩

/-- What no single move breaks, no step breaks. -/
theorem Invariant.act (inv : Invariant I) (slotted : s.Slotted) (h : I none s) (t : Step) :
    I none (s.act t).2 ∧ (s.act t).2.Slotted :=
  inv.toMoves.act slotted h t fun _ call response _ s' _ _ h => inv.called s'.now call response h

theorem true_invariant : Invariant fun _ _ => True := by
  refine ⟨?_, fun _ _ _ h => h⟩
  constructor <;> intros <;> trivial

theorem act_slotted (slotted : s.Slotted) (t : Step) : (s.act t).2.Slotted :=
  (true_invariant.act slotted trivial t).2

theorem releaseAll_held (slotted : s.Slotted) : s.releaseAll.held = [] :=
  (true_invariant.releaseAll slotted trivial).2.1

/-! ## Whole runs -/

theorem run_cons_closed {ts : List Step} (h : (s.step t).2.isClosed = true) :
    s.run (t :: ts) = ([(s.step t).1], (s.step t).2) := by
  simp only [run, h, if_true]

theorem run_cons_open {ts : List Step} (h : (s.step t).2.isClosed = false) :
    s.run (t :: ts) =
      ((s.step t).1 :: ((s.step t).2.run ts).1, ((s.step t).2.run ts).2) := by
  simp only [run, h, Bool.false_eq_true, if_false]

/-- What no single move breaks, no run breaks whose calls do not break it. -/
theorem Moves.run (moves : Moves I) (ts : List Step) (slotted : s.Slotted) (h : I none s)
    (called : ∀ i slot call response c s', ts[i]? = some (.call slot call response) →
      (s.run (ts.take i)).2.handle slot = .ok (c, s') → I (some c) s' → I (some (Connector.runOn c
        s'.connector.mode.isPooled s'.connector.readTimeout s'.now call response).connection) s') :
    I none (s.run ts).2 ∧ (s.run ts).2.Slotted := by
  induction ts generalizing s with
  | nil => exact ⟨h, slotted⟩
  | cons t ts ih =>
    obtain ⟨kept, slotted⟩ := moves.act slotted h t fun slot call response c s' first =>
      called 0 slot call response c s' (congrArg some first)
    cases closed : (s.step t).2.isClosed with
    | true =>
      rw [run_cons_closed closed]
      exact ⟨kept, slotted⟩
    | false =>
      rw [run_cons_open closed]
      refine ih slotted kept fun i slot call response c s' next got => ?_
      have later := called (i + 1) slot call response c s' next
      rw [List.take_succ_cons, run_cons_open closed] at later
      exact later got

theorem Invariant.run (inv : Invariant I) (ts : List Step) (slotted : s.Slotted)
    (h : I none s) : I none (s.run ts).2 ∧ (s.run ts).2.Slotted :=
  inv.toMoves.run ts slotted h fun _ _ call response _ s' _ _ h => inv.called s'.now call response h

/-- Every report of a run is that of its step, taken where the steps before it led. -/
theorem run_report {ts : List Step} {i : Nat} {r : Report} (h : (s.run ts).1[i]? = some r) :
    ∃ t, ts[i]? = some t ∧ r = ((s.run (ts.take i)).2.step t).1 := by
  induction ts generalizing s i with
  | nil => simp [run] at h
  | cons t ts ih =>
    cases closed : (s.step t).2.isClosed with
    | true =>
      rw [run_cons_closed closed] at h
      cases i with
      | zero =>
        cases h
        exact ⟨t, rfl, rfl⟩
      | succ i => simp at h
    | false =>
      rw [run_cons_open closed] at h
      cases i with
      | zero =>
        cases h
        exact ⟨t, rfl, rfl⟩
      | succ i =>
        obtain ⟨t', eq, report⟩ := ih h
        refine ⟨t', eq, ?_⟩
        rw [List.take_succ_cons, run_cons_open closed]
        exact report

end Session

end RedisClient
