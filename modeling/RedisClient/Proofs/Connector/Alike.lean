import Mathlib.Data.List.Forall2
import RedisClient.Proofs.Connection.Exchange
import RedisClient.Proofs.Connector.Calls

/-!
# Connectors that differ in a password

Two connections are alike if they differ in nothing but the password that they were set up with: the
one was given `p` where the other was given `p'`. Nothing that is done with a connection looks at
its set-up, so what is done with connections that are alike comes to the same and leaves them alike:
exchanges and calls (`exchange_withSetup`, `runOn_alike`), and lending and taking back
(`borrow_alike`, `giveBack_alike`) as long as the openers are alike too.
-/

namespace RedisClient

/-- Two results are both failures that are related, or both values that are related. -/
inductive Matched {ε δ α β : Type} (S : ε → δ → Prop) (R : α → β → Prop) :
    Except ε α → Except δ β → Prop
  | ok {a : α} {b : β} (related : R a b) : Matched S R (.ok a) (.ok b)
  | error {e : ε} {f : δ} (related : S e f) : Matched S R (.error e) (.error f)

theorem Matched.cases {ε δ α β : Type} {S : ε → δ → Prop} {R : α → β → Prop} {x : Except ε α}
    {y : Except δ β} (h : Matched S R x y) : (∃ a b, x = .ok a ∧ y = .ok b ∧ R a b) ∨
      ∃ e f, x = .error e ∧ y = .error f ∧ S e f := by
  cases h with
  | ok related => exact .inl ⟨_, _, rfl, rfl, related⟩
  | error related => exact .inr ⟨_, _, rfl, rfl, related⟩

/-- Two greetings differ at most in that one gives `p` as the password and the other `p'`. -/
inductive Greeting.Alike (p p' : String) : Greeting → Greeting → Prop
  | auth : Alike p p' (.auth p) (.auth p')
  | select (database : Int64) : Alike p p' (.select database) (.select database)
  | setInfo : Alike p p' .setInfo .setInfo
  | setName (name : String) : Alike p p' (.setName name) (.setName name)

/-! ## Connections -/

namespace Connection

/-- Two connections differ at most in the password that they were set up with. -/
structure Alike (p p' : String) (c c' : Connection) : Prop where
  setup : List.Forall₂ (Greeting.Alike p p') c.setup c'.setup
  same : c' = { c with setup := c'.setup }

variable {p p' : String} {c c' : Connection}

/-- Reading does not depend on the set-up. -/
theorem readFrom_withSetup (timeout : Option Duration) (setup setup' : List Greeting)
    (inbox : List Arrival) (now skip : Nat) :
    readFrom timeout setup' now skip inbox =
      let r := readFrom timeout setup now skip inbox
      { r with connection := { r.connection with setup := setup' } } := by
  induction inbox generalizing now skip with
  | nil => simp only [readFrom_nil]
  | cons a inbox ih =>
    cases late : tooLate timeout now a.time with
    | true => simp only [readFrom_late late]
    | false =>
      cases ha : a.reaction with
      | hangUp => simp only [readFrom_hangUp late ha]
      | reply r =>
        cases skip with
        | zero => simp only [readFrom_reply late ha]
        | succ skip =>
          simp only [readFrom_skip late ha]
          exact ih _ _

/-- An exchange does not depend on the set-up. -/
theorem exchange_withSetup (c : Connection) (setup : List Greeting) (now : Nat)
    (response : Response) :
    exchange { c with setup } now response =
      let e := c.exchange now response
      { e with connection := { e.connection with setup } } := by
  have read := readFrom_withSetup (c.send now response).readTimeout (c.send now response).setup setup
    (c.send now response).inbox now (c.send now response).skip
  have sent : send { c with setup } now response = { c.send now response with setup } := by
    unfold send
    have hangs : hangsUp { c with setup } = c.hangsUp := rfl
    simp only [hangs]
    split <;> rfl
  unfold exchange
  simp only [sent]
  split
  · simp only [Connection.read, read]
    rfl
  · rfl

theorem Alike.isOpen (h : Alike p p' c c') : c'.isOpen = c.isOpen := by rw [h.same]

end Connection

namespace Connector

open Connection (Alike)

variable {p p' : String} {c c' : Connection}

/-- A call does not depend on the set-up of its connection. -/
theorem runOn_withSetup (c : Connection) (setup : List Greeting) (pooled : Bool)
    (base : Option Duration) (now : Nat) (call : Call) (response : Response) :
    runOn { c with setup } pooled base now call response =
      let ran := runOn c pooled base now call response
      { ran with connection := { ran.connection with setup } } := by
  have queried (limit : Option Duration) :=
    Connection.exchange_withSetup { c with readTimeout := limit } setup now response
  have usual := Connection.exchange_withSetup c setup now response
  unfold runOn
  split
  · rfl
  · split
    · simp only [query, usual]
    · split
      · rfl
      · simp only [query, queried]

/-- Calls on connections that are alike come to the same, and leave the connections alike. -/
theorem runOn_alike (h : Alike p p' c c') (pooled : Bool) (base : Option Duration) (now : Nat)
    (call : Call) (response : Response) :
    let ran := runOn c pooled base now call response
    let ran' := runOn c' pooled base now call response
    ran' = { ran with connection := ran'.connection } ∧
      Alike p p' ran.connection ran'.connection := by
  have kept := congrArg (fun ran : Ran => ran.connection.setup)
    (runOn_withSetup c c.setup pooled base now call response)
  have told := runOn_withSetup c c'.setup pooled base now call response
  rw [← h.same] at told
  simp only [told]
  exact ⟨trivial, kept ▸ h.setup, rfl⟩

/-- So does saying goodbye. -/
theorem sayGoodbye_alike (h : Alike p p' c c') (now : Nat) (response : Response) :
    sayGoodbye c' now response = sayGoodbye c now response := by
  have told := Connection.exchange_withSetup c c'.setup now response
  rw [← h.same] at told
  simp only [sayGoodbye, told]

end Connector

/-! ## Pools -/

namespace Pool

/-- Every attempt to open a connection goes as the same attempt of the other opener, but for the
password. -/
def OpenersAlike (p p' : String) (opener opener' : Opener) : Prop :=
  ∀ n, Matched Eq (Connection.Alike p p') (opener n) (opener' n)

/-- Two pools hold connections that are alike, and are the same in all else. -/
structure Alike (p p' : String) (q q' : Pool) : Prop where
  supply : q'.supply = q.supply
  idle : List.Forall₂ (Connection.Alike p p') q.idle q'.idle
  inUse : q'.inUse = q.inUse
  attempts : q'.attempts = q.attempts

variable {p p' : String} {opener opener' : Opener} {q q' : Pool} {c c' : Connection}

theorem Alike.size (h : Alike p p' q q') : q'.size = q.size := by
  rw [Pool.size, Pool.size, h.inUse, h.idle.length_eq]

theorem Alike.capacity (h : Alike p p' q q') : q'.capacity = q.capacity := by
  rw [Pool.capacity, Pool.capacity, h.supply]

theorem Alike.missing (h : Alike p p' q q') : q'.missing = q.missing := by
  simp only [Pool.missing, h.supply, h.size, h.idle.length_eq]

theorem Alike.state (h : Alike p p' q q') : q'.state = q.state := by
  rw [Pool.state, Pool.state, h.size, h.idle.length_eq]

theorem openReady_alike (opens : OpenersAlike p p' opener opener') (count : Nat)
    (h : Alike p p' q q') : (q'.openReady opener' count).2 = (q.openReady opener count).2 ∧
      Alike p p' (q.openReady opener count).1 (q'.openReady opener' count).1 := by
  induction count generalizing q q' with
  | zero => exact ⟨rfl, h⟩
  | succ count ih =>
    unfold openReady
    rw [h.attempts]
    rcases (opens q.attempts).cases with ⟨c, c', ok, ok', alike⟩ | ⟨e, _, failed, failed', rfl⟩
    · simp only [ok, ok']
      refine ih ⟨h.supply, ?_, h.inUse, rfl⟩
      exact List.rel_append h.idle (.cons alike .nil)
    · simp only [failed, failed']
      exact ⟨trivial, h.supply, h.idle, h.inUse, rfl⟩

theorem refill_alike (opens : OpenersAlike p p' opener opener') (h : Alike p p' q q') :
    Alike p p' (refill opener q) (refill opener' q') := by
  unfold refill
  rw [h.missing]
  exact (openReady_alike opens q.missing h).2

/-- Alike pools lend connections that are alike, or refuse for the same reason. -/
theorem borrow_alike (opens : OpenersAlike p p' opener opener') (h : Alike p p' q q') :
    Matched (fun refused refused' => refused'.1 = refused.1 ∧ Alike p p' refused.2 refused'.2)
      (fun lent lent' => Connection.Alike p p' lent.1 lent'.1 ∧ Alike p p' lent.2 lent'.2)
      (q.borrow opener) (q'.borrow opener') := by
  unfold borrow
  have idle := h.idle
  cases front : q.idle with
  | cons c rest =>
    rw [front] at idle
    cases front' : q'.idle with
    | nil =>
      rw [front'] at idle
      cases idle
    | cons c' rest' =>
      rw [front', List.forall₂_cons] at idle
      refine .ok ⟨idle.1, refill_alike opens ⟨h.supply, idle.2, ?_, h.attempts⟩⟩
      exact congrArg (· + 1) h.inUse
  | nil =>
    rw [front, List.forall₂_nil_left_iff] at idle
    simp only [idle, h.size, h.capacity, h.supply, h.attempts]
    split
    · rcases (opens q.attempts).cases with ⟨c, c', ok, ok', alike⟩ | ⟨e, _, failed, failed', rfl⟩
      · simp only [ok, ok']
        refine .ok ⟨alike, refill_alike opens ⟨rfl, ?_, congrArg (· + 1) h.inUse, rfl⟩⟩
        exact .nil
      · simp only [failed, failed']
        exact .error ⟨rfl, rfl, .nil, h.inUse, rfl⟩
    · exact .error ⟨rfl, h⟩

theorem giveBack_alike (opens : OpenersAlike p p' opener opener') (alike : Connection.Alike p p' c c')
    (h : Alike p p' q q') : Alike p p' (q.giveBack opener c) (q'.giveBack opener' c') := by
  have keeps : q'.keeps c' = q.keeps c := by
    rw [Pool.keeps, Pool.keeps, alike.isOpen, h.supply]
  have fewer : q'.inUse - 1 = q.inUse - 1 := congrArg (· - 1) h.inUse
  unfold giveBack
  rw [keeps]
  split
  · exact ⟨h.supply, .cons alike h.idle, fewer, h.attempts⟩
  · exact refill_alike opens ⟨h.supply, h.idle, fewer, h.attempts⟩

theorem start_alike (opens : OpenersAlike p p' opener opener') (capacity ready : Nat) :
    Matched Eq (Alike p p') (start opener capacity ready) (start opener' capacity ready) := by
  have empty : Alike p p' ⟨.elastic capacity ready, [], 0, 0⟩ ⟨.elastic capacity ready, [], 0, 0⟩ :=
    ⟨rfl, .nil, rfl, rfl⟩
  obtain ⟨same, alike⟩ := openReady_alike opens (max 1 ready) empty
  unfold start
  generalize openReady opener (max 1 ready) _ = r at same alike ⊢
  generalize openReady opener' (max 1 ready) _ = r' at same alike ⊢
  obtain ⟨q, _⟩ := r
  obtain ⟨q', failed⟩ := r'
  obtain rfl := same
  cases failed with
  | some failure => exact .error rfl
  | none => exact .ok alike

end Pool

end RedisClient
