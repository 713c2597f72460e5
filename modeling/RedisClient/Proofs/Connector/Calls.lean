import RedisClient.Connector
import RedisClient.Proofs.Command.Faults
import RedisClient.Proofs.Connection.Exchange

/-!
# Calls on a borrowed connection

A call on a connection with the usual read timeout goes one of three ways: its arguments are refused
(`runOn_refused`), its time to block is too long to wait for (`runOn_overflow`), or its command is
sent and answered under the limit that is in force for it (`runOn_served`). In all three the
connection has its usual read timeout afterwards, and stays settled.
-/

namespace RedisClient

/-- A sum that is no duration is too long for one. -/
theorem Duration.add?_eq_none {a b : Duration} :
    a.add? b = none ↔ 2 ^ 64 * 10 ^ 9 ≤ a.nanos + b.nanos := by
  rw [add?, ofNanos?]
  split
  · simp only [reduceCtorEq, false_iff]
    omega
  · simp only [true_iff]
    omega

theorem Duration.add?_eq_some {a b c : Duration} (h : a.add? b = some c) :
    c.nanos = a.nanos + b.nanos := by
  rw [add?, ofNanos?] at h
  split at h
  · cases h
    rfl
  · cases h

namespace Connector

variable {c : Connection} {pooled : Bool} {base limit : Option Duration} {now : Nat} {call : Call}
  {response : Response}

/-- The read timeout in force while a call waits for its reply, if there is such a duration. -/
def limit? (base : Option Duration) (call : Call) : Option (Option Duration) :=
  match call.blockSeconds? with
  | none => some base
  | some seconds => widened? base (some seconds)

theorem limit?_of_not_blocking (h : call.blockSeconds? = none) : limit? base call = some base := by
  simp only [limit?, h]

theorem widened?_add {d : Duration} {seconds : UInt64} (waits : seconds ≠ 0) :
    widened? (some d) (some seconds) = (d.add? (.ofSeconds seconds)).map some := by
  simp only [widened?, waits, if_false]

theorem limit?_of_fits
    (fits : ∀ d n, base = some d → call.blockSeconds? = some n →
      d.nanos + n.toNat * 10 ^ 9 < 2 ^ 64 * 10 ^ 9) : ∃ limit, limit? base call = some limit := by
  unfold limit?
  cases blocking : call.blockSeconds? with
  | none => exact ⟨_, rfl⟩
  | some n =>
    cases base with
    | none => exact ⟨_, rfl⟩
    | some d =>
      by_cases zero : n = 0
      · subst zero
        exact ⟨_, rfl⟩
      · have lt : d.nanos + (Duration.ofSeconds n).nanos < 2 ^ 64 * 10 ^ 9 := fits d n rfl blocking
        simp only [widened?_add zero]
        cases sum : d.add? (.ofSeconds n) with
        | none => exact absurd lt (Nat.not_lt.2 (Duration.add?_eq_none.1 sum))
        | some total => exact ⟨_, rfl⟩

/-! ## The three ways -/

theorem runOn_refused {e : Error} (h : call.refusal? = some e) :
    runOn c pooled base now call response = ⟨.error e, now, [], [], c⟩ := by
  simp only [runOn, h]

theorem runOn_overflow (fine : call.refusal? = none) (h : limit? base call = none) :
    runOn c pooled base now call response = ⟨.panic, now, [], [], c⟩ := by
  unfold limit? at h
  simp only [runOn, fine]
  cases blocking : call.blockSeconds? with
  | none => simp [blocking] at h
  | some n =>
    simp only [blocking] at h
    simp only [h]

theorem restored (usual : c.readTimeout = base) : { c with readTimeout := base } = c := by
  subst usual
  rfl

theorem runOn_served (fine : call.refusal? = none) (usual : c.readTimeout = base)
    (h : limit? base call = some limit) :
    runOn c pooled base now call response =
      let e := { c with readTimeout := limit }.exchange now response
      ⟨outcomeOf call.method.spec.shape e.result, e.time, if e.received then [call.command] else [],
        [.sending call.commandName pooled], { e.connection with readTimeout := base }⟩ := by
  unfold limit? at h
  simp only [runOn, fine]
  cases blocking : call.blockSeconds? with
  | none =>
    simp only [blocking, Option.some.injEq] at h
    subst h usual
    rw [restored (Connection.exchange_readTimeout c now response)]
    rfl
  | some n =>
    simp only [blocking] at h
    simp only [h, query]

/-- How a call on a connection with the usual read timeout can go. -/
theorem runOn_cases (c : Connection) (pooled : Bool) (now : Nat) (call : Call)
    (response : Response) :
    (∃ e, call.refusal? = some e ∧
      runOn c pooled c.readTimeout now call response = ⟨.error e, now, [], [], c⟩) ∨
    (call.refusal? = none ∧ limit? c.readTimeout call = none ∧
      runOn c pooled c.readTimeout now call response = ⟨.panic, now, [], [], c⟩) ∨
    (call.refusal? = none ∧ ∃ limit, limit? c.readTimeout call = some limit ∧
      runOn c pooled c.readTimeout now call response =
        let e := { c with readTimeout := limit }.exchange now response
        ⟨outcomeOf call.method.spec.shape e.result, e.time,
          if e.received then [call.command] else [], [.sending call.commandName pooled],
          { e.connection with readTimeout := c.readTimeout }⟩) := by
  cases fine : call.refusal? with
  | some e => exact .inl ⟨e, rfl, runOn_refused fine⟩
  | none =>
    cases h : limit? c.readTimeout call with
    | none => exact .inr (.inl ⟨rfl, rfl, runOn_overflow fine h⟩)
    | some limit => exact .inr (.inr ⟨rfl, limit, rfl, runOn_served fine rfl h⟩)

/-! ## What they have in common -/

theorem runOn_readTimeout (usual : c.readTimeout = base) :
    (runOn c pooled base now call response).connection.readTimeout = base := by
  subst usual
  rcases runOn_cases c pooled now call response with ⟨e, -, eq⟩ | ⟨-, -, eq⟩ | ⟨-, limit, -, eq⟩ <;>
    rw [eq]

theorem runOn_settled (usual : c.readTimeout = base) (h : c.Settled) :
    (runOn c pooled base now call response).connection.Settled := by
  subst usual
  rcases runOn_cases c pooled now call response with ⟨e, -, eq⟩ | ⟨-, -, eq⟩ | ⟨-, limit, -, eq⟩ <;>
    rw [eq]
  · exact h
  · exact h
  · exact Connection.exchange_settled (c := { c with readTimeout := limit }) h now response

theorem query_sent (pooled : Bool) (c : Connection) (now : Nat) (call : Call)
    (response : Response) : (query pooled c now call response).sent = [] ∨
      (query pooled c now call response).sent = [call.command] := by
  simp only [query]
  split
  · exact .inr rfl
  · exact .inl rfl

/-- At most one command is sent for a call, and none if its arguments are refused. -/
theorem runOn_sent (c : Connection) (pooled : Bool) (base : Option Duration) (now : Nat)
    (call : Call) (response : Response) :
    (runOn c pooled base now call response).sent = [] ∨
      call.refusal? = none ∧ (runOn c pooled base now call response).sent = [call.command] := by
  unfold runOn
  split
  · exact .inl rfl
  · rename_i fine
    split
    · exact (query_sent pooled c now call response).imp_right fun sent => ⟨fine, sent⟩
    · split
      · exact .inl rfl
      · exact (query_sent pooled _ now call response).imp_right fun sent => ⟨fine, sent⟩

/-- A call whose arguments are fine logs that its command is sent, or nothing if the wait for its
reply would be too long. -/
theorem runOn_events (fine : call.refusal? = none) (c : Connection) (pooled : Bool)
    (base : Option Duration) (now : Nat) (response : Response) :
    (runOn c pooled base now call response).events =
      if (limit? base call).isSome then [.sending call.commandName pooled] else [] := by
  cases blocking : call.blockSeconds? with
  | none => simp [runOn, fine, limit?, blocking, query]
  | some seconds =>
    cases wait : widened? base (some seconds) with
    | none => simp [runOn, fine, limit?, blocking, wait]
    | some limit => simp [runOn, fine, limit?, blocking, wait, query]

theorem sayGoodbye_sent (c : Connection) (now : Nat) (response : Response) :
    (sayGoodbye c now response).sent = [] ∨ (sayGoodbye c now response).sent = [["QUIT"]] := by
  simp only [sayGoodbye]
  split
  · exact .inr rfl
  · exact .inl rfl

/-- Nothing but a goodbye is sent by closing. -/
theorem close_sent (c : Connector) (now : Nat) (response : Response) :
    (c.close now response).sent = [] ∨ (c.close now response).sent = [["QUIT"]] := by
  unfold close
  split
  · exact sayGoodbye_sent _ _ _
  · exact .inl rfl

theorem outcomeOf_ne_resource (shape : Shape) (result : Except Failure Reply) (message : String) :
    outcomeOf shape result ≠ .error (.resource message) := by
  have ne (f : Failure) : f.toError ≠ .resource message := by
    unfold Failure.toError
    split <;> simp
  unfold outcomeOf
  split
  · simpa using ne _
  · split
    · simp
    · split
      · simp
      · simpa using ne _

/-- A call that has its connection does not complain about the want of one. -/
theorem runOn_ne_resource (usual : c.readTimeout = base) (message : String) :
    (runOn c pooled base now call response).outcome ≠ .error (.resource message) := by
  subst usual
  rcases runOn_cases c pooled now call response with ⟨e, refused, eq⟩ | ⟨-, -, eq⟩ |
    ⟨-, limit, -, eq⟩ <;> rw [eq]
  · obtain ⟨i, kind, -, text, rfl⟩ := Call.refusal_some refused
    simp
  · simp
  · exact outcomeOf_ne_resource _ _ message

/-- An answer is read from the reply to the command itself, which came before the limit in force. -/
theorem runOn_answer {a : Answer} (usual : c.readTimeout = base) (h : c.Settled)
    (answered : (runOn c pooled base now call response).outcome = .answer a) :
    ∃ r limit, response.reaction = .reply r ∧ call.method.spec.shape.read r = .ok a ∧
      limit? base call = some limit ∧ ∀ d, limit = some d → response.delay < d.nanos := by
  subst usual
  rcases runOn_cases c pooled now call response with ⟨e, -, eq⟩ | ⟨-, -, eq⟩ |
    ⟨-, limit, inForce, eq⟩ <;> rw [eq] at answered
  · cases answered
  · cases answered
  · simp only [outcomeOf] at answered
    split at answered
    · cases answered
    · rename_i r ok
      obtain ⟨own, inTime⟩ :=
        Connection.exchange_ok (c := { c with readTimeout := limit }) h ok
      split at answered
      · cases answered
      · split at answered
        · rename_i a' read
          cases answered
          exact ⟨r, limit, own, read, inForce, inTime⟩
        · cases answered

end Connector

end RedisClient
