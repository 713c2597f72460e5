import RedisClient.Proofs.Connection.Exchange

/-!
# Which commands are heard of

`Hears` says of a command, before it is sent, that the server is going to get it and that what the
server does about it comes while the client still waits. If so, the exchange comes to exactly that
(`exchange_reply`, `exchange_end`) and leaves nothing on its way. In every other case it fails, as
the operating system would have it (`exchange_unheard`).

A connection is `Lost` once the server has hung up, or is going to before it takes another command:
nothing is heard on it any more, and it stays lost (`exchange_lost`).
-/

namespace RedisClient

namespace Connection

variable {c : Connection} {timeout : Option Duration} {setup : List Greeting} {response : Response}
  {now skip : Nat} {own : Arrival} {inbox : List Arrival} {r : Reply} {f : Failure}

/-! ## In time -/

/-- Each response comes before the read timeout has passed since the one before it. -/
def InTime (timeout : Option Duration) : Nat → List Arrival → Prop
  | _, [] => True
  | now, a :: inbox => tooLate timeout now a.time = false ∧ InTime timeout (max now a.time) inbox

/-- The response to a command that is sent now, and the time at which it comes. -/
def arrival (c : Connection) (now : Nat) (response : Response) : Arrival :=
  ⟨c.serverFree now + response.delay, response.reaction⟩

/-- The server gets a command that is sent now, and all that is on its way then comes in time. -/
structure Hears (c : Connection) (now : Nat) (response : Response) : Prop where
  isOpen : c.isOpen = true
  served : c.hangsUp = false
  inTime : InTime c.readTimeout now (c.inbox ++ [c.arrival now response])

theorem tooLate_eq_false {start arrival : Nat} : tooLate timeout start arrival = false ↔
    ∀ limit, timeout = some limit → arrival - start < limit.nanos := by
  cases timeout <;> simp [tooLate]

/-- Without a limit nothing comes too late. -/
theorem inTime_unlimited (now : Nat) (inbox : List Arrival) : InTime none now inbox := by
  induction inbox generalizing now with
  | nil => trivial
  | cons a inbox ih => exact ⟨rfl, ih _⟩

theorem inTime_append {more : List Arrival} : InTime timeout now (inbox ++ more) ↔
    InTime timeout now inbox ∧
      InTime timeout (inbox.foldl (fun t a => max t a.time) now) more := by
  induction inbox generalizing now with
  | nil => simp [InTime]
  | cons a inbox ih => simp only [List.cons_append, InTime, List.foldl_cons, ih, and_assoc]

/-- Responses come in time if each of them comes before the limit has passed since `start`: the wait
for a later one begins no earlier. -/
theorem inTime_of_lt {start : Nat} (le : start ≤ now)
    (lt : ∀ limit, timeout = some limit →
      0 < limit.nanos ∧ ∀ a ∈ inbox, a.time < start + limit.nanos) : InTime timeout now inbox := by
  induction inbox generalizing now with
  | nil => trivial
  | cons a inbox ih =>
    constructor
    · rw [tooLate_eq_false]
      intro limit h
      obtain ⟨pos, before⟩ := lt limit h
      have := before a List.mem_cons_self
      omega
    · refine ih (Nat.le_trans le (Nat.le_max_left now a.time)) fun limit h => ?_
      obtain ⟨pos, before⟩ := lt limit h
      exact ⟨pos, fun b mem => before b (List.mem_cons_of_mem a mem)⟩

/-- The server is not free before now, nor before it has dealt with what is on its way. -/
theorem le_serverFree (c : Connection) (now : Nat) :
    now ≤ c.serverFree now ∧ ∀ a ∈ c.inbox, a.time ≤ c.serverFree now := by
  unfold serverFree
  generalize c.inbox = inbox
  induction inbox generalizing now with
  | nil => simp
  | cons a inbox ih =>
    obtain ⟨le, all⟩ := ih (max now a.time)
    rw [List.foldl_cons, List.forall_mem_cons]
    exact ⟨Nat.le_trans (Nat.le_max_left _ _) le, Nat.le_trans (Nat.le_max_right _ _) le, all⟩

/-- A live connection hears of a command if the whole wait is shorter than the read timeout. -/
theorem hears_of_lt (isOpen : c.isOpen = true) (served : c.hangsUp = false)
    (lt : ∀ limit, c.readTimeout = some limit →
      c.serverFree now + response.delay < now + limit.nanos) : c.Hears now response := by
  refine ⟨isOpen, served, inTime_of_lt (Nat.le_refl now) fun limit h => ?_⟩
  obtain ⟨le, all⟩ := c.le_serverFree now
  have last := lt limit h
  refine ⟨by omega, fun a mem => ?_⟩
  rcases List.mem_append.1 mem with mem | mem
  · have := all a mem
    omega
  · rw [List.mem_singleton.1 mem]
    exact last

theorem hangsUp_eq_false : c.hangsUp = false ↔ ∀ a ∈ c.inbox, ∃ r, a.reaction = .reply r := by
  simp only [hangsUp, List.any_eq_false]
  refine forall₂_congr fun a _ => ?_
  cases a.reaction <;> simp

theorem hangsUp_eq_true : c.hangsUp = true ↔ ∃ a ∈ c.inbox, a.reaction = .hangUp := by
  simp only [hangsUp, List.any_eq_true]
  refine exists_congr fun a => and_congr_right fun _ => ?_
  cases a.reaction <;> simp

/-! ## Reading what is heard -/

/-- When all comes in time, the replies that are owed are thrown away, and the wait for what comes
after them starts with the last of them. -/
theorem readFrom_inTime (owed : Owed skip inbox)
    (served : ∀ a ∈ inbox, ∃ r, a.reaction = .reply r)
    (inTime : InTime timeout now (inbox ++ [own])) :
    readFrom timeout setup now skip (inbox ++ [own]) =
      readFrom timeout setup (inbox.foldl (fun t a => max t a.time) now) 0 [own] := by
  induction inbox generalizing skip now with
  | nil =>
    obtain rfl : skip = 0 := owed
    rfl
  | cons a inbox ih =>
    obtain ⟨r, ha⟩ := served a List.mem_cons_self
    obtain ⟨m, rfl, left⟩ := (owed_reply ha).1 owed
    rw [List.cons_append, readFrom_skip inTime.1 ha]
    exact ih left (fun b hb => served b (List.mem_cons_of_mem a hb)) inTime.2

theorem readFrom_overdue (owed : Owed skip inbox)
    (served : ∀ a ∈ inbox, ∃ r, a.reaction = .reply r)
    (late : ¬InTime timeout now (inbox ++ [own])) :
    (readFrom timeout setup now skip (inbox ++ [own])).result = .error timedOut := by
  induction inbox generalizing skip now with
  | nil =>
    cases tooLate? : tooLate timeout now own.time with
    | true => rw [List.nil_append, readFrom_late tooLate?]
    | false => exact absurd ⟨tooLate?, trivial⟩ late
  | cons a inbox ih =>
    cases tooLate? : tooLate timeout now a.time with
    | true => rw [List.cons_append, readFrom_late tooLate?]
    | false =>
      obtain ⟨r, ha⟩ := served a List.mem_cons_self
      obtain ⟨m, rfl, left⟩ := (owed_reply ha).1 owed
      rw [List.cons_append, readFrom_skip tooLate? ha]
      refine ih left (fun b hb => served b (List.mem_cons_of_mem a hb)) fun inTime => ?_
      exact late ⟨tooLate?, inTime⟩

theorem readFrom_error (failed : (readFrom timeout setup now skip inbox).result = .error f) :
    ∃ cause, f = .io cause := by
  induction inbox generalizing skip now with
  | nil =>
    rw [readFrom_nil] at failed
    cases failed
    exact ⟨_, rfl⟩
  | cons a inbox ih =>
    cases late : tooLate timeout now a.time with
    | true =>
      rw [readFrom_late late] at failed
      cases failed
      exact ⟨_, rfl⟩
    | false =>
      cases ha : a.reaction with
      | hangUp =>
        rw [readFrom_hangUp late ha] at failed
        cases failed
        exact ⟨_, rfl⟩
      | reply r =>
        cases skip with
        | zero =>
          rw [readFrom_reply late ha] at failed
          cases failed
        | succ skip =>
          rw [readFrom_skip late ha] at failed
          exact ih failed

/-! ## The three kinds of exchange -/

def Exchange.ofRead (received : Bool) (r : Read) : Exchange :=
  ⟨r.result, r.time, received, r.connection⟩

theorem exchange_closed (closed : c.isOpen = false) (now : Nat) (response : Response) :
    c.exchange now response = ⟨.error brokenPipe, now, false, c⟩ := by
  simp [exchange, closed]

theorem exchange_hanging (isOpen : c.isOpen = true) (hangs : c.hangsUp = true) (now : Nat)
    (response : Response) : c.exchange now response =
      .ofRead false (readFrom c.readTimeout c.setup now c.skip c.inbox) := by
  simp [exchange, isOpen, Exchange.ofRead, read, send, hangs]

theorem exchange_served (isOpen : c.isOpen = true) (served : c.hangsUp = false) (now : Nat)
    (response : Response) : c.exchange now response =
      .ofRead true (readFrom c.readTimeout c.setup now c.skip
        (c.inbox ++ [c.arrival now response])) := by
  simp [exchange, isOpen, Exchange.ofRead, read, send, served, arrival]

/-- An exchange on a closed connection, on one on which the server hangs up before it gets the
command, or on one on which it gets it. -/
theorem exchange_cases (c : Connection) (now : Nat) (response : Response) :
    (c.isOpen = false ∧ c.exchange now response = ⟨.error brokenPipe, now, false, c⟩) ∨
    (c.isOpen = true ∧ c.hangsUp = true ∧ c.exchange now response =
      .ofRead false (readFrom c.readTimeout c.setup now c.skip c.inbox)) ∨
    (c.isOpen = true ∧ c.hangsUp = false ∧ c.exchange now response =
      .ofRead true (readFrom c.readTimeout c.setup now c.skip
        (c.inbox ++ [c.arrival now response]))) := by
  cases isOpen : c.isOpen with
  | false => exact .inl ⟨rfl, exchange_closed isOpen now response⟩
  | true =>
    cases hangs : c.hangsUp with
    | true => exact .inr (.inl ⟨rfl, rfl, exchange_hanging isOpen hangs now response⟩)
    | false => exact .inr (.inr ⟨rfl, rfl, exchange_served isOpen hangs now response⟩)

theorem exchange_received (c : Connection) (now : Nat) (response : Response) :
    (c.exchange now response).received = (c.isOpen && !c.hangsUp) := by
  rcases exchange_cases c now response with ⟨closed, eq⟩ | ⟨isOpen, hangs, eq⟩ |
    ⟨isOpen, served, eq⟩ <;> rw [eq]
  · simp [closed]
  · simp [isOpen, hangs, Exchange.ofRead]
  · simp [isOpen, served, Exchange.ofRead]

/-! ## Exchanges that are heard of -/

theorem Hears.last (heard : c.Hears now response) :
    tooLate c.readTimeout (c.serverFree now) (c.arrival now response).time = false :=
  (inTime_append.1 heard.inTime).2.1

theorem exchange_heard (settled : c.Settled) (heard : c.Hears now response) :
    c.exchange now response = .ofRead true
      (readFrom c.readTimeout c.setup (c.serverFree now) 0 [c.arrival now response]) := by
  have served := hangsUp_eq_false.1 heard.served
  rw [exchange_served heard.isOpen heard.served,
    readFrom_inTime (settled heard.isOpen) served heard.inTime]
  rfl

theorem max_serverFree (c : Connection) (now : Nat) (response : Response) :
    max (c.serverFree now) (c.arrival now response).time = c.serverFree now + response.delay :=
  Nat.max_eq_right (Nat.le_add_right _ _)

/-- A reply that is heard of is what the exchange comes to, and nothing is left on its way. -/
theorem exchange_reply (settled : c.Settled) (heard : c.Hears now response)
    (reply : response.reaction = .reply r) :
    c.exchange now response = ⟨.ok r, c.serverFree now + response.delay, true,
      { c with skip := 0, inbox := [] }⟩ := by
  rw [exchange_heard settled heard, readFrom_reply heard.last reply, max_serverFree, heard.isOpen]
  rfl

/-- When the client learns that the server has hung up, it closes the connection. -/
theorem exchange_end (settled : c.Settled) (heard : c.Hears now response)
    (ends : response.reaction = .hangUp) :
    c.exchange now response = ⟨.error endOfStream, c.serverFree now + response.delay, true,
      { c with isOpen := false, skip := 0, inbox := [] }⟩ := by
  rw [exchange_heard settled heard, readFrom_hangUp heard.last ends, max_serverFree]
  rfl

/-- Only a reply that is heard of makes an exchange succeed. -/
theorem hears_of_ok (settled : c.Settled) (ok : (c.exchange now response).result = .ok r) :
    c.Hears now response ∧ response.reaction = .reply r := by
  obtain ⟨reply, -⟩ := exchange_ok settled ok
  refine ⟨?_, reply⟩
  rcases exchange_cases c now response with ⟨closed, eq⟩ | ⟨isOpen, hangs, eq⟩ |
    ⟨isOpen, served, eq⟩ <;> simp only [eq, Exchange.ofRead] at ok
  · cases ok
  · rw [← List.append_nil c.inbox] at ok
    obtain ⟨own, rest, eq, -⟩ := readFrom_ok (settled isOpen) ok
    cases eq
  · refine ⟨isOpen, served, Classical.byContradiction fun late => ?_⟩
    rw [readFrom_overdue (settled isOpen) (hangsUp_eq_false.1 served) late] at ok
    cases ok

theorem exchange_error (failed : (c.exchange now response).result = .error f) :
    ∃ cause, f = .io cause := by
  rcases exchange_cases c now response with ⟨-, eq⟩ | ⟨-, -, eq⟩ | ⟨-, -, eq⟩ <;>
    simp only [eq, Exchange.ofRead] at failed
  · cases failed
    exact ⟨_, rfl⟩
  · exact readFrom_error failed
  · exact readFrom_error failed

/-- Without a reply that is heard of, an exchange fails as the operating system has it. -/
theorem exchange_unheard (settled : c.Settled)
    (unheard : c.Hears now response → response.reaction = .hangUp) :
    ∃ cause, (c.exchange now response).result = .error (.io cause) := by
  cases result : (c.exchange now response).result with
  | error f =>
    obtain ⟨cause, rfl⟩ := exchange_error result
    exact ⟨cause, rfl⟩
  | ok r =>
    obtain ⟨heard, reply⟩ := hears_of_ok settled result
    rw [unheard heard] at reply
    cases reply

/-! ## Connections on which nothing is on its way -/

/-- The connection is open, and nothing is on its way. -/
structure Clean (c : Connection) : Prop where
  isOpen : c.isOpen = true
  skip : c.skip = 0
  inbox : c.inbox = []

theorem Clean.settled (h : c.Clean) : c.Settled := by
  intro _
  rw [h.skip, h.inbox]
  rfl

theorem Clean.served (h : c.Clean) : c.hangsUp = false := by
  rw [hangsUp, h.inbox]
  rfl

/-- On such a connection a response comes in time if it takes less time than the read timeout. -/
theorem Clean.hears_iff (h : c.Clean) : c.Hears now response ↔
    ∀ limit, c.readTimeout = some limit → response.delay < limit.nanos := by
  have free : c.serverFree now = now := by simp [serverFree, h.inbox]
  have waits : InTime c.readTimeout now (c.inbox ++ [c.arrival now response]) ↔
      ∀ limit, c.readTimeout = some limit → response.delay < limit.nanos := by
    simp only [arrival, h.inbox, free, List.nil_append, InTime, and_true, tooLate_eq_false,
      Nat.add_sub_cancel_left]
  rw [← waits]
  exact ⟨fun heard => heard.inTime, fun inTime => ⟨h.isOpen, h.served, inTime⟩⟩

/-- A reply in time leaves such a connection as it was. -/
theorem Clean.exchange_reply (h : c.Clean)
    (prompt : ∀ limit, c.readTimeout = some limit → response.delay < limit.nanos)
    (reply : response.reaction = .reply r) :
    c.exchange now response = ⟨.ok r, now + response.delay, true, c⟩ := by
  have free : c.serverFree now = now := by simp [serverFree, h.inbox]
  have same : { c with skip := 0, inbox := [] } = c := by rw [← h.skip, ← h.inbox]
  rw [Connection.exchange_reply h.settled (h.hears_iff.2 prompt) reply, free, same]

/-! ## Lost connections -/

/-- The connection is closed, or the server is going to hang up before it takes another command. -/
def Lost (c : Connection) : Prop := c.isOpen = true → c.hangsUp = true

theorem Lost.not_hears (h : c.Lost) : ¬c.Hears now response := by
  intro heard
  have hangs := h heard.isOpen
  rw [heard.served] at hangs
  cases hangs

theorem readFrom_lost (hangs : ∃ a ∈ inbox, a.reaction = .hangUp) :
    (readFrom timeout setup now skip inbox).connection.Lost := by
  induction inbox generalizing skip now with
  | nil => simp at hangs
  | cons a inbox ih =>
    cases late : tooLate timeout now a.time with
    | true =>
      rw [readFrom_late late]
      exact fun _ => hangsUp_eq_true.2 hangs
    | false =>
      cases ha : a.reaction with
      | hangUp =>
        rw [readFrom_hangUp late ha]
        intro isOpen
        cases isOpen
      | reply r =>
        have left : ∃ b ∈ inbox, b.reaction = .hangUp := by
          obtain ⟨b, mem, hb⟩ := hangs
          rcases List.mem_cons.1 mem with rfl | mem
          · rw [ha] at hb
            cases hb
          · exact ⟨b, mem, hb⟩
        cases skip with
        | zero =>
          rw [readFrom_reply late ha]
          exact fun _ => hangsUp_eq_true.2 left
        | succ skip =>
          rw [readFrom_skip late ha]
          exact ih left

/-- Nothing that is sent on a lost connection is received, and the connection stays lost. -/
theorem exchange_lost (h : c.Lost) (now : Nat) (response : Response) :
    (c.exchange now response).received = false ∧ (c.exchange now response).connection.Lost := by
  rcases exchange_cases c now response with ⟨-, eq⟩ | ⟨-, hangs, eq⟩ | ⟨isOpen, served, eq⟩
  · rw [eq]
    exact ⟨rfl, h⟩
  · rw [eq]
    exact ⟨rfl, readFrom_lost (hangsUp_eq_true.1 hangs)⟩
  · rw [h isOpen] at served
    cases served

/-- A connection is lost when the server hangs up instead of replying, whenever that comes. -/
theorem exchange_hangUp_lost (c : Connection) (now : Nat) (ends : response.reaction = .hangUp) :
    (c.exchange now response).connection.Lost := by
  rcases exchange_cases c now response with ⟨closed, eq⟩ | ⟨-, hangs, eq⟩ | ⟨-, -, eq⟩ <;> rw [eq]
  · intro isOpen
    rw [closed] at isOpen
    cases isOpen
  · exact readFrom_lost (hangsUp_eq_true.1 hangs)
  · exact readFrom_lost ⟨_, List.mem_append_right _ List.mem_cons_self, ends⟩

/-! ## Connections on which the server stays -/

/-- If the server hangs up on getting a command that is sent now, the client hears of it. -/
def Notices (c : Connection) (now : Nat) (response : Response) : Prop :=
  c.isOpen = true → response.reaction = .hangUp → c.Hears now response

theorem readFrom_serving (served : ∀ a ∈ inbox, ∃ r, a.reaction = .reply r) :
    (readFrom timeout setup now skip inbox).connection.hangsUp = false := by
  induction inbox generalizing skip now with
  | nil => rw [readFrom_nil]; rfl
  | cons a inbox ih =>
    obtain ⟨r, ha⟩ := served a List.mem_cons_self
    have left : ∀ b ∈ inbox, ∃ r, b.reaction = .reply r :=
      fun b hb => served b (List.mem_cons_of_mem a hb)
    cases late : tooLate timeout now a.time with
    | true =>
      rw [readFrom_late late]
      exact hangsUp_eq_false.2 served
    | false =>
      cases skip with
      | zero =>
        rw [readFrom_reply late ha]
        exact hangsUp_eq_false.2 left
      | succ skip =>
        rw [readFrom_skip late ha]
        exact ih left

/-- Where no hang-up goes unnoticed, the server never hangs up between two commands. -/
theorem exchange_serving (settled : c.Settled) (served : c.hangsUp = false)
    (notices : c.Notices now response) :
    (c.exchange now response).connection.hangsUp = false := by
  rcases exchange_cases c now response with ⟨-, eq⟩ | ⟨-, hangs, -⟩ | ⟨isOpen, -, eq⟩
  · rw [eq]
    exact served
  · rw [served] at hangs
    cases hangs
  · cases reaction : response.reaction with
    | hangUp =>
      rw [exchange_end settled (notices isOpen reaction) reaction]
      rfl
    | reply r =>
      rw [eq]
      refine readFrom_serving fun a mem => ?_
      rcases List.mem_append.1 mem with mem | mem
      · exact hangsUp_eq_false.1 served a mem
      · rw [List.mem_singleton.1 mem]
        exact ⟨r, reaction⟩

/-! ## The set-up -/

/-- An exchange is no part of the set-up of its connection. -/
theorem exchange_setup (c : Connection) (now : Nat) (response : Response) :
    (c.exchange now response).connection.setup = c.setup := by
  rcases exchange_cases c now response with ⟨-, eq⟩ | ⟨-, -, eq⟩ | ⟨-, -, eq⟩ <;> rw [eq]
  · exact (readFrom_settings _ _ _ _ _).2
  · exact (readFrom_settings _ _ _ _ _).2

end Connection

end RedisClient
