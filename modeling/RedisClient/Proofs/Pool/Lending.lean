import RedisClient.Factory

/-!
# Lending from a pool

What opening, lending and taking back do to a pool, said once for each operation; later proofs use
these facts and never look into the operations. `Sound` is the invariant: a pool never has more
connections than it has room for, and a direct connection is never lost. Giving back what was lent
keeps it (`giveBack_sound`), and so does lending (`borrow_sound`, `Refused.sound`). What is taken back
is what the factory of a single server does not know to be broken (`keeps_eq_not_hasBroken`).
-/

namespace RedisClient

namespace Pool

variable {opener : Opener} {p q : Pool} {c d : Connection} {e : Exhausted}

def New (opener : Opener) (c : Connection) : Prop := ∃ n, opener n = .ok c

/-- A new connection in a pool that opens any. -/
structure Opened (opener : Opener) (p : Pool) (c : Connection) : Prop where
  several : p.supply ≠ .single
  new : New opener c

/-- `q` is `p` with new connections behind the idle ones. -/
structure Grown (opener : Opener) (p q : Pool) (opened : List Connection) : Prop where
  supply : q.supply = p.supply
  inUse : q.inUse = p.inUse
  idle : q.idle = p.idle ++ opened
  fresh : ∀ c ∈ opened, New opener c

theorem Grown.size {opened : List Connection} (h : Grown opener p q opened) :
    q.size = p.size + opened.length := by
  simp only [Pool.size, h.idle, h.inUse, List.length_append]
  omega

theorem Grown.capacity {opened : List Connection} (h : Grown opener p q opened) :
    q.capacity = p.capacity := by
  simp only [Pool.capacity, h.supply]

/-! ## Opening -/

theorem openReady_grown (opener : Opener) : ∀ (count : Nat) (p : Pool),
    ∃ opened, Grown opener p (p.openReady opener count).1 opened ∧ opened.length ≤ count ∧
      ((p.openReady opener count).2 = none → opened.length = count)
  | 0, p => ⟨[], ⟨rfl, rfl, by simp [openReady], by simp⟩, by simp, by simp⟩
  | count + 1, p => by
    unfold openReady
    cases hc : opener p.attempts with
    | error failure => exact ⟨[], ⟨rfl, rfl, by simp, by simp⟩, by simp, by simp⟩
    | ok c =>
      obtain ⟨opened, grown, le, all⟩ := openReady_grown opener count
        { p with idle := p.idle ++ [c], attempts := p.attempts + 1 }
      refine ⟨c :: opened, ⟨grown.supply, grown.inUse, ?_, ?_⟩, ?_, fun none => ?_⟩
      · rw [grown.idle]
        simp
      · intro d hd
        rcases List.mem_cons.1 hd with rfl | hd
        · exact ⟨p.attempts, hc⟩
        · exact grown.fresh d hd
      · simp only [List.length_cons]
        omega
      · have := all none
        simp only [List.length_cons]
        omega

theorem openReady_ok (opens : ∀ n, ∃ c, opener n = .ok c) (count : Nat) (p : Pool) :
    (p.openReady opener count).2 = none := by
  induction count generalizing p with
  | zero => rfl
  | succ count ih =>
    obtain ⟨c, hc⟩ := opens p.attempts
    simp only [openReady, hc]
    exact ih _

/-- Nothing keeps a pool from starting if every attempt to open a connection succeeds. -/
theorem start_ok (opens : ∀ n, ∃ c, opener n = .ok c) (capacity ready : Nat) :
    ∃ p, start opener capacity ready = .ok p := by
  have none := openReady_ok opens (max 1 ready) ⟨.elastic capacity ready, [], 0, 0⟩
  unfold start
  split
  · rename_i failed
    rw [failed] at none
    cases none
  · exact ⟨_, rfl⟩

theorem refill_grown (opener : Opener) (p : Pool) :
    ∃ opened, Grown opener p (refill opener p) opened ∧ opened.length ≤ p.missing := by
  obtain ⟨opened, grown, le, -⟩ := openReady_grown opener p.missing p
  exact ⟨opened, grown, le⟩

theorem refill_idle (opener : Opener) (p : Pool) :
    ∀ d ∈ (refill opener p).idle, d ∈ p.idle ∨ Opened opener p d := by
  obtain ⟨opened, grown, le⟩ := refill_grown opener p
  intro d hd
  rw [grown.idle, List.mem_append] at hd
  refine hd.imp_right fun hd => ⟨fun single => ?_, grown.fresh d hd⟩
  simp only [missing, single] at le
  have := List.length_pos_of_mem hd
  omega

/-- A pool has no more connections than it has room for, and a direct connection is neither lost
nor joined by another. -/
structure Sound (p : Pool) : Prop where
  size_le : p.size ≤ p.capacity
  single : p.supply = .single → p.size = 1

theorem refill_sound (h : Sound p) : Sound (refill opener p) := by
  obtain ⟨opened, grown, le⟩ := refill_grown opener p
  have room := h.size_le
  constructor
  · rw [grown.size, grown.capacity]
    cases supply : p.supply with
    | single =>
      simp only [missing, supply] at le
      omega
    | elastic capacity ready =>
      simp only [missing, Pool.capacity, supply] at le room ⊢
      omega
  · intro single
    rw [grown.supply] at single
    have one := h.single single
    simp only [missing, single] at le
    rw [grown.size]
    omega

/-! ## Lending -/

/-- What is lent was idle or is new; what else is idle afterwards was idle before or is new. -/
structure Lent (opener : Opener) (p : Pool) (c : Connection) (q : Pool) : Prop where
  supply : q.supply = p.supply
  inUse : q.inUse = p.inUse + 1
  origin : c ∈ p.idle ∨ Opened opener p c
  idle : ∀ d ∈ q.idle, d ∈ p.idle ∨ Opened opener p d

/-- The pool is as it was, but for the number of attempts. -/
structure Refused (p q : Pool) : Prop where
  supply : q.supply = p.supply
  inUse : q.inUse = p.inUse
  idle : q.idle = p.idle

/-- How lending can go: the first idle connection is lent, or a new one; or none can be opened, or
all that there may be are lent out already. -/
theorem borrow_cases (opener : Opener) (p : Pool) :
    (∃ c rest, p.idle = c :: rest ∧
      p.borrow opener = .ok (c, refill opener { p with idle := rest, inUse := p.inUse + 1 })) ∨
    (p.idle = [] ∧ p.size < p.capacity ∧ p.supply ≠ .single ∧ ∃ c, opener p.attempts = .ok c ∧
      p.borrow opener =
        .ok (c, refill opener { p with inUse := p.inUse + 1, attempts := p.attempts + 1 })) ∨
    (p.idle = [] ∧ p.size < p.capacity ∧ p.supply ≠ .single ∧
      ∃ failure, opener p.attempts = .error failure ∧
        p.borrow opener = .error (.notOpened failure, { p with attempts := p.attempts + 1 })) ∨
    (p.idle = [] ∧ (p.capacity ≤ p.size ∨ p.supply = .single) ∧
      p.borrow opener = .error (.allInUse, p)) := by
  unfold borrow
  cases idle : p.idle with
  | cons c rest => exact .inl ⟨c, rest, rfl, rfl⟩
  | nil =>
    right
    by_cases room : p.size < p.capacity ∧ p.supply ≠ .single
    · have open? : (decide (p.size < p.capacity) && p.supply != .single) = true := by
        simpa using room
      cases hc : opener p.attempts with
      | ok c => exact .inl ⟨rfl, room.1, room.2, c, rfl, by simp only [open?, if_true]⟩
      | error failure =>
        exact .inr (.inl ⟨rfl, room.1, room.2, failure, rfl, by simp only [open?, if_true]⟩)
    · have shut : (decide (p.size < p.capacity) && p.supply != .single) = false := by
        rw [← Bool.not_eq_true]
        simpa using room
      refine .inr (.inr ⟨rfl, ?_, by simp [shut]⟩)
      by_cases full : p.size < p.capacity
      · exact .inr (Decidable.not_not.1 fun ne => room ⟨full, ne⟩)
      · exact .inl (Nat.not_lt.1 full)

theorem borrow_lent (h : p.borrow opener = .ok (c, q)) : Lent opener p c q := by
  rcases borrow_cases opener p with ⟨c', rest, idle, eq⟩ | ⟨-, -, several, c', new, eq⟩ |
    ⟨-, -, -, f, -, eq⟩ | ⟨-, -, eq⟩ <;> rw [eq] at h <;> cases h
  · obtain ⟨opened, grown, -⟩ := refill_grown opener { p with idle := rest, inUse := p.inUse + 1 }
    refine ⟨grown.supply, grown.inUse, .inl (by simp [idle]), fun d hd => ?_⟩
    rcases refill_idle opener _ d hd with hd | ⟨several, new⟩
    · exact .inl (by simp [idle, show d ∈ rest from hd])
    · exact .inr ⟨several, new⟩
  · obtain ⟨opened, grown, -⟩ :=
      refill_grown opener { p with inUse := p.inUse + 1, attempts := p.attempts + 1 }
    refine ⟨grown.supply, grown.inUse, .inr ⟨several, _, new⟩, fun d hd => ?_⟩
    exact (refill_idle opener _ d hd).imp_right fun ⟨several, new⟩ => ⟨several, new⟩

theorem borrow_sound (hp : Sound p) (h : p.borrow opener = .ok (c, q)) : Sound q := by
  have le := hp.size_le
  rcases borrow_cases opener p with ⟨c', rest, idle, eq⟩ | ⟨-, room, several, c', -, eq⟩ |
    ⟨-, -, -, f, -, eq⟩ | ⟨-, -, eq⟩ <;> rw [eq] at h <;> cases h
  · -- the connection changes sides, so the size stays the same
    refine refill_sound ⟨?_, fun single => ?_⟩
    · simp only [Pool.size, Pool.capacity, idle, List.length_cons] at le ⊢
      omega
    · have one := hp.single single
      simp only [Pool.size, idle, List.length_cons] at one ⊢
      omega
  · refine refill_sound ⟨?_, fun single => absurd single several⟩
    simp only [Pool.size, Pool.capacity] at room ⊢
    omega

theorem borrow_refused (h : p.borrow opener = .error (e, q)) : Refused p q := by
  rcases borrow_cases opener p with ⟨c', rest, idle, eq⟩ | ⟨-, -, -, c', new, eq⟩ |
    ⟨-, -, -, f, -, eq⟩ | ⟨-, -, eq⟩ <;> rw [eq] at h <;> cases h
  · exact ⟨rfl, rfl, rfl⟩
  · exact ⟨rfl, rfl, rfl⟩

theorem Refused.sound (h : Refused p q) (hp : Sound p) : Sound q := by
  have size : q.size = p.size := by simp only [Pool.size, h.idle, h.inUse]
  have capacity : q.capacity = p.capacity := by simp only [Pool.capacity, h.supply]
  exact ⟨by rw [size, capacity]; exact hp.size_le,
    fun single => by rw [size]; exact hp.single (h.supply ▸ single)⟩

theorem inUse_le (h : Sound p) : p.inUse ≤ p.capacity := by
  have := h.size_le
  simp only [Pool.size] at this
  omega

/-- Once all connections that there may be are lent out, no more is lent and nothing changes. -/
theorem borrow_full (h : Sound p) (full : p.inUse = p.capacity) :
    p.borrow opener = .error (.allInUse, p) := by
  have le := h.size_le
  simp only [Pool.size] at le
  rcases borrow_cases opener p with ⟨c', rest, idle, -⟩ | ⟨-, room, -⟩ | ⟨-, room, -⟩ | ⟨-, -, eq⟩
  · simp only [idle, List.length_cons] at le
    omega
  · simp only [Pool.size] at room
    omega
  · simp only [Pool.size] at room
    omega
  · exact eq

/-- Before that one is lent, if it is idle or can be opened. -/
theorem borrow_granted (h : Sound p) (room : p.inUse < p.capacity)
    (opens : p.supply ≠ .single → ∃ c, opener p.attempts = .ok c) :
    ∃ c q, p.borrow opener = .ok (c, q) := by
  rcases borrow_cases opener p with ⟨c, rest, -, eq⟩ | ⟨-, -, -, c, -, eq⟩ |
    ⟨-, -, several, f, failed, -⟩ | ⟨idle, full, -⟩
  · exact ⟨c, _, eq⟩
  · exact ⟨c, _, eq⟩
  · obtain ⟨c, opened⟩ := opens several
    rw [failed] at opened
    cases opened
  · simp only [Pool.size, idle, List.length_nil] at full
    rcases full with full | single
    · omega
    · have one := h.single single
      simp only [Pool.size, idle, List.length_nil, Pool.capacity, single] at one room
      omega

/-! ## Taking back -/

theorem keeps_of_several (several : p.supply ≠ .single) : p.keeps c = c.isOpen := by
  simp [keeps, several]

/-- Of connections to a single server, a pool takes back those that their factory does not know to be
broken. -/
theorem keeps_eq_not_hasBroken (several : p.supply ≠ .single) (t : Target) :
    p.keeps c = !(Factory.standalone t).hasBroken c := by
  rw [keeps_of_several several, Factory.hasBroken, Bool.not_not]

theorem giveBack_broken (several : p.supply ≠ .single) {t : Target}
    (broken : (Factory.standalone t).hasBroken c = true) :
    p.giveBack opener c = refill opener { p with inUse := p.inUse - 1 } := by
  have dropped : p.keeps c = false := by
    rw [keeps_eq_not_hasBroken several t, broken, Bool.not_true]
  rw [giveBack, dropped, if_neg Bool.false_ne_true]

/-- What is idle after a connection was given back is this connection if it is kept, or was idle
before, or is new. -/
structure TakenBack (opener : Opener) (p : Pool) (c : Connection) (q : Pool) : Prop where
  supply : q.supply = p.supply
  inUse : q.inUse = p.inUse - 1
  idle : ∀ d ∈ q.idle, (d = c ∧ p.keeps c = true) ∨ d ∈ p.idle ∨ Opened opener p d

theorem giveBack_takenBack (opener : Opener) (c : Connection) (p : Pool) :
    TakenBack opener p c (p.giveBack opener c) := by
  unfold giveBack
  split
  · rename_i kept
    refine ⟨rfl, rfl, fun d hd => ?_⟩
    exact (List.mem_cons.1 hd).imp (fun same => ⟨same, kept⟩) .inl
  · obtain ⟨opened, grown, -⟩ := refill_grown opener { p with inUse := p.inUse - 1 }
    refine ⟨grown.supply, grown.inUse, fun d hd => .inr ?_⟩
    exact (refill_idle opener _ d hd).imp_right fun ⟨several, new⟩ => ⟨several, new⟩

theorem giveBack_sound (h : Sound p) (lent : 0 < p.inUse) : Sound (p.giveBack opener c) := by
  have le := h.size_le
  unfold giveBack
  split
  · refine ⟨?_, fun single => ?_⟩
    · simp only [Pool.size, Pool.capacity, List.length_cons] at le ⊢
      omega
    · have one := h.single single
      simp only [Pool.size, List.length_cons] at one ⊢
      omega
  · rename_i dropped
    refine refill_sound ⟨?_, fun single => ?_⟩
    · simp only [Pool.size, Pool.capacity] at le ⊢
      omega
    · -- a direct connection is kept even when it is closed
      simp [keeps, show p.supply = .single from single] at dropped

end Pool

end RedisClient
