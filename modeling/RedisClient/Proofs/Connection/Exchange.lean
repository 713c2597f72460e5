import RedisClient.Connection.Basic

/-!
# Exchanges on a connection

Between two commands a connection is `Settled`: what is still on its way to the client are replies
to commands that were given up, as many as are counted to be thrown away, unless the server is about
to hang up. Each exchange leaves a settled connection settled (`exchange_settled`), and a reply that
comes out of one is the server's reply to the command that was sent (`exchange_ok`). An exchange
never touches the read timeout.
-/

namespace RedisClient

namespace Connection

variable {c : Connection} {timeout : Option Duration} {setup : List Greeting} {response : Response}
  {now skip : Nat} {a : Arrival} {inbox : List Arrival}

/-! ## Reading, one response at a time -/

theorem readFrom_nil : readFrom timeout setup now skip [] =
    ⟨.error timedOut, now, ⟨setup, timeout, true, skip + 1, []⟩⟩ := by
  unfold readFrom
  rfl

theorem readFrom_late (late : tooLate timeout now a.time = true) :
    readFrom timeout setup now skip (a :: inbox) =
      ⟨.error timedOut, now + timeout.elim 0 Duration.nanos,
        ⟨setup, timeout, true, skip + 1, a :: inbox⟩⟩ := by
  unfold readFrom
  rw [if_pos late]

theorem readFrom_hangUp (inTime : tooLate timeout now a.time = false) (ha : a.reaction = .hangUp) :
    readFrom timeout setup now skip (a :: inbox) =
      ⟨.error endOfStream, max now a.time, ⟨setup, timeout, false, skip, inbox⟩⟩ := by
  unfold readFrom
  simp [inTime, ha]

theorem readFrom_reply {r : Reply} (inTime : tooLate timeout now a.time = false)
    (ha : a.reaction = .reply r) :
    readFrom timeout setup now 0 (a :: inbox) =
      ⟨.ok r, max now a.time, ⟨setup, timeout, true, 0, inbox⟩⟩ := by
  unfold readFrom
  simp [inTime, ha]

theorem readFrom_skip {r : Reply} (inTime : tooLate timeout now a.time = false)
    (ha : a.reaction = .reply r) :
    readFrom timeout setup now (skip + 1) (a :: inbox) =
      readFrom timeout setup (max now a.time) skip inbox := by
  conv => lhs; unfold readFrom
  simp [inTime, ha]

/-! ## The read timeout -/

/-- Reading changes neither the read timeout nor the set-up of a connection. -/
theorem readFrom_settings (timeout : Option Duration) (setup : List Greeting)
    (inbox : List Arrival) (now skip : Nat) :
    (readFrom timeout setup now skip inbox).connection.readTimeout = timeout ∧
      (readFrom timeout setup now skip inbox).connection.setup = setup := by
  induction inbox generalizing now skip with
  | nil =>
    rw [readFrom_nil]
    exact ⟨rfl, rfl⟩
  | cons a inbox ih =>
    cases late : tooLate timeout now a.time with
    | true =>
      rw [readFrom_late late]
      exact ⟨rfl, rfl⟩
    | false =>
      cases ha : a.reaction with
      | hangUp =>
        rw [readFrom_hangUp late ha]
        exact ⟨rfl, rfl⟩
      | reply r =>
        cases skip with
        | zero =>
          rw [readFrom_reply late ha]
          exact ⟨rfl, rfl⟩
        | succ skip =>
          rw [readFrom_skip late ha]
          exact ih _ _

theorem send_readTimeout (c : Connection) (now : Nat) (response : Response) :
    (c.send now response).readTimeout = c.readTimeout := by
  unfold send
  split <;> rfl

@[simp] theorem exchange_readTimeout (c : Connection) (now : Nat) (response : Response) :
    (c.exchange now response).connection.readTimeout = c.readTimeout := by
  unfold exchange
  split
  · exact (readFrom_settings _ _ _ _ _).1.trans (send_readTimeout c now response)
  · rfl

/-! ## Replies to be thrown away -/

/-- The responses are `n` replies, or the server hangs up after at most `n` of them. -/
def Owed : Nat → List Arrival → Prop
  | n, [] => n = 0
  | n, a :: inbox =>
    match a.reaction with
    | .hangUp => True
    | .reply _ => ∃ m, n = m + 1 ∧ Owed m inbox

/-- While a connection is open, all replies that it has not read are owed to commands given up. -/
def Settled (c : Connection) : Prop := c.isOpen = true → Owed c.skip c.inbox

theorem owed_hangUp {n : Nat} (ha : a.reaction = .hangUp) : Owed n (a :: inbox) := by
  simp [Owed, ha]

theorem owed_reply {n : Nat} {r : Reply} (ha : a.reaction = .reply r) :
    Owed n (a :: inbox) ↔ ∃ m, n = m + 1 ∧ Owed m inbox := by
  simp [Owed, ha]

theorem owed_append {n : Nat} (own : Arrival) (h : Owed n inbox) :
    Owed (n + 1) (inbox ++ [own]) := by
  induction inbox generalizing n with
  | nil =>
    obtain rfl : n = 0 := h
    cases ho : own.reaction with
    | hangUp => exact owed_hangUp ho
    | reply r => exact (owed_reply ho).2 ⟨0, rfl, rfl⟩
  | cons a inbox ih =>
    cases ha : a.reaction with
    | hangUp => exact owed_hangUp ha
    | reply r =>
      obtain ⟨m, rfl, left⟩ := (owed_reply ha).1 h
      exact (owed_reply ha).2 ⟨m + 1, rfl, ih left⟩

theorem owed_succ {n : Nat} (h : Owed n c.inbox) (hangs : c.hangsUp = true) :
    Owed (n + 1) c.inbox := by
  unfold hangsUp at hangs
  generalize c.inbox = inbox at h hangs
  induction inbox generalizing n with
  | nil => simp at hangs
  | cons a inbox ih =>
    cases ha : a.reaction with
    | hangUp => exact owed_hangUp ha
    | reply r =>
      obtain ⟨m, rfl, left⟩ := (owed_reply ha).1 h
      simp only [List.any_cons, ha, Bool.false_or] at hangs
      exact (owed_reply ha).2 ⟨m + 1, rfl, ih left hangs⟩

theorem send_owed (h : Owed c.skip c.inbox) (now : Nat) (response : Response) :
    Owed ((c.send now response).skip + 1) (c.send now response).inbox := by
  unfold send
  split
  · rename_i hangs
    exact owed_succ h hangs
  · exact owed_append _ h

/-- Reading throws away what is owed, or stops before it has done so. -/
theorem readFrom_settled (h : Owed (skip + 1) inbox) :
    Settled (readFrom timeout setup now skip inbox).connection := by
  induction inbox generalizing skip now with
  | nil => cases h
  | cons a inbox ih =>
    cases late : tooLate timeout now a.time with
    | true =>
      rw [readFrom_late late]
      exact fun _ => h
    | false =>
      cases ha : a.reaction with
      | hangUp =>
        rw [readFrom_hangUp late ha]
        intro isOpen
        cases isOpen
      | reply r =>
        obtain ⟨m, eq, left⟩ := (owed_reply ha).1 h
        obtain rfl : m = skip := by omega
        cases m with
        | zero =>
          rw [readFrom_reply late ha]
          exact fun _ => left
        | succ skip =>
          rw [readFrom_skip late ha]
          exact ih left

theorem exchange_settled (h : c.Settled) (now : Nat) (response : Response) :
    (c.exchange now response).connection.Settled := by
  unfold exchange
  split
  · rename_i isOpen
    exact readFrom_settled (send_owed (h isOpen) now response)
  · exact h

/-! ## The reply that comes out -/

/-- When all that is owed is thrown away first, only what comes after it can come out, and the wait
for it starts when the last of the others has come. -/
theorem readFrom_ok {more : List Arrival} {r : Reply} (h : Owed skip inbox)
    (ok : (readFrom timeout setup now skip (inbox ++ more)).result = .ok r) :
    ∃ own rest, more = own :: rest ∧ own.reaction = .reply r ∧
      tooLate timeout (inbox.foldl (fun t a => max t a.time) now) own.time = false := by
  induction inbox generalizing skip now with
  | nil =>
    obtain rfl : skip = 0 := h
    rw [List.nil_append] at ok
    cases more with
    | nil =>
      rw [readFrom_nil] at ok
      cases ok
    | cons own rest =>
      cases late : tooLate timeout now own.time with
      | true =>
        rw [readFrom_late late] at ok
        cases ok
      | false =>
        cases ho : own.reaction with
        | hangUp =>
          rw [readFrom_hangUp late ho] at ok
          cases ok
        | reply r' =>
          rw [readFrom_reply late ho] at ok
          cases ok
          exact ⟨own, rest, rfl, ho, late⟩
  | cons a inbox ih =>
    rw [List.cons_append] at ok
    cases late : tooLate timeout now a.time with
    | true =>
      rw [readFrom_late late] at ok
      cases ok
    | false =>
      cases ha : a.reaction with
      | hangUp =>
        rw [readFrom_hangUp late ha] at ok
        cases ok
      | reply r' =>
        obtain ⟨m, rfl, left⟩ := (owed_reply ha).1 h
        rw [readFrom_skip late ha] at ok
        exact ih left ok

theorem not_tooLate {d : Duration} {start arrival : Nat}
    (h : tooLate (some d) start arrival = false) : arrival - start < d.nanos := by
  simpa [tooLate] using h

/-- A reply that comes out of an exchange is the server's reply to the command of this exchange, and
it took less time than the read timeout allows. -/
theorem exchange_ok {r : Reply} (h : c.Settled) (ok : (c.exchange now response).result = .ok r) :
    response.reaction = .reply r ∧
      ∀ limit, c.readTimeout = some limit → response.delay < limit.nanos := by
  unfold exchange at ok
  split at ok
  · rename_i isOpen
    have owed := h isOpen
    simp only [read, send] at ok
    split at ok
    · -- the server hangs up first, so no reply is left but those that are owed
      rw [← List.append_nil c.inbox] at ok
      obtain ⟨own, rest, eq, -⟩ := readFrom_ok owed ok
      cases eq
    · obtain ⟨own, rest, eq, reply, inTime⟩ := readFrom_ok owed ok
      cases eq
      refine ⟨reply, fun limit hl => ?_⟩
      rw [hl] at inTime
      have waited := not_tooLate inTime
      simp only [serverFree] at waited
      omega
  · cases ok

end Connection

end RedisClient
