import RedisClient.Proofs.Session.Classification

/-!
# Calls that may block

The server may hold the reply to such a call back for as many seconds as the call says, so the
client waits that much longer than usual, or without a limit if there is none as it is
(`Connector.Window`). A reply that comes while the client waits is the outcome of the call
(`blocking_awaited`).

The time to wait is a sum, and a sum of durations need not be a duration. If it is not, the call
ends abruptly before anything is sent (`blocking_ends`); it takes hundreds of billions of years for
that, but nothing stops a caller from asking for them.
-/

namespace RedisClient

/-- The call lets the server hold its reply back for so many seconds. -/
inductive Call.BlocksFor : Call → UInt64 → Prop
  | blpop (seconds : UInt64) (keys : List String) :
    BlocksFor ⟨.blpop, seconds, keys, ()⟩ seconds
  | brpop (seconds : UInt64) (keys : List String) :
    BlocksFor ⟨.brpop, seconds, keys, ()⟩ seconds
  | brpoplpush (seconds : UInt64) (source destination : String) :
    BlocksFor ⟨.brpoplpush, seconds, source, destination, ()⟩ seconds

/-- No other calls have their time to wait changed. -/
theorem Call.blocksFor_iff {call : Call} {seconds : UInt64} :
    call.BlocksFor seconds ↔ call.blockSeconds? = some seconds := by
  constructor
  · intro h
    cases h <;> rfl
  · intro h
    obtain ⟨method, args⟩ := call
    cases method
    case blpop =>
      obtain ⟨n, keys, ⟨⟩⟩ := args
      cases h
      exact .blpop _ _
    case brpop =>
      obtain ⟨n, keys, ⟨⟩⟩ := args
      cases h
      exact .brpop _ _
    case brpoplpush =>
      obtain ⟨n, source, destination, ⟨⟩⟩ := args
      cases h
      exact .brpoplpush _ _ _
    all_goals cases h

namespace Connector

variable {base window : Option Duration} {seconds : UInt64} {call : Call} {c : Connection}
  {now : Nat}

/-! ## How long a call waits -/

/-- The usual limit and the time to block are too long together to be a duration. -/
def TooLong (base : Option Duration) (seconds : UInt64) : Prop :=
  ∃ d, base = some d ∧ 2 ^ 64 * 10 ^ 9 ≤ d.nanos + seconds.toNat * 10 ^ 9

instance (base : Option Duration) (seconds : UInt64) : Decidable (TooLong base seconds) :=
  decidable_of_iff (base.any fun d => 2 ^ 64 * 10 ^ 9 ≤ d.nanos + seconds.toNat * 10 ^ 9)
    (by simp [TooLong, Option.any_eq_true])

/-- To block for ever takes no time to add. -/
theorem not_tooLong_zero (base : Option Duration) : ¬TooLong base 0 := by
  rintro ⟨d, -, long⟩
  have := d.nanos_lt
  simp only [UInt64.toNat_zero] at long
  omega

/-- The limit for the reply to a call that may block: the time to block is added to the usual one.
There is none if there usually is none, or if the call may block for ever. -/
structure Window (base : Option Duration) (seconds : UInt64) (window : Option Duration) : Prop where
  unlimited : base = none ∨ seconds = 0 → window = none
  extended : ∀ d, base = some d → seconds ≠ 0 →
    ∃ limit, window = some limit ∧ limit.nanos = d.nanos + seconds.toNat * 10 ^ 9

/-- The limit is a duration, except if that would be too long. -/
theorem limit?_cases (base : Option Duration) (blocks : call.BlocksFor seconds) :
    (TooLong base seconds ∧ limit? base call = none) ∨
    (¬TooLong base seconds ∧ ∃ window, Window base seconds window ∧
      limit? base call = some window) := by
  have widened : limit? base call = widened? base (some seconds) := by
    rw [limit?, Call.blocksFor_iff.1 blocks]
  rw [widened]
  cases base with
  | none => exact .inr ⟨by simp [TooLong], none, ⟨fun _ => rfl, by simp⟩, rfl⟩
  | some d =>
    by_cases zero : seconds = 0
    · subst zero
      exact .inr ⟨not_tooLong_zero _, none, ⟨fun _ => rfl, fun _ _ ne => absurd rfl ne⟩, rfl⟩
    · rw [widened?_add zero]
      cases sum : d.add? (.ofSeconds seconds) with
      | none => exact .inl ⟨⟨d, rfl, Duration.add?_eq_none.1 sum⟩, rfl⟩
      | some total =>
        refine .inr ⟨?_, some total, ⟨?_, ?_⟩, rfl⟩
        · rintro ⟨d', h, long⟩
          cases h
          have none : d.add? (.ofSeconds seconds) = none := Duration.add?_eq_none.2 long
          rw [sum] at none
          cases none
        · rintro (h | h)
          · cases h
          · exact absurd h zero
        · rintro d' h -
          cases h
          exact ⟨total, rfl, Duration.add?_eq_some sum⟩

/-- The client waits for a server that makes use of all of its time to block. -/
theorem Window.outlasts (h : Window base seconds window)
    (turns : ∀ d, base = some d → c.serverFree now < now + d.nanos) :
    ∀ limit, window = some limit →
      c.serverFree now + seconds.toNat * 10 ^ 9 < now + limit.nanos := by
  intro limit inForce
  cases base with
  | none =>
    rw [h.unlimited (.inl rfl)] at inForce
    cases inForce
  | some d =>
    by_cases zero : seconds = 0
    · rw [h.unlimited (.inr zero)] at inForce
      cases inForce
    · obtain ⟨_, rfl, sum⟩ := h.extended d rfl zero
      cases inForce
      have := turns d rfl
      omega

end Connector

namespace Session

open Connector

variable {s s' : Session} {c : Connection} {connector : Connector} {slot : Option Nat} {call : Call}
  {seconds : UInt64} {net : Network} {config : Config}

/-! ## How the calls end -/

/-- A call that would wait too long gives its connection back, and has no result. -/
theorem call_overlong (got : s.handle slot = .ok (c, s')) (settings : Settings connector s')
    (fine : call.refusal? = none) (overlong : limit? connector.readTimeout call = none)
    (response : Response) :
    s.act (.call slot call response) = (⟨.called .panic, [], [], none⟩, s'.giveBack c) := by
  rw [← settings.readTimeout] at overlong
  exact call_unsent got (runOn_overflow fine overlong)

/-- After every run, a call that may block fails if it gets no connection. If it gets one it ends
abruptly in two cases: if the time to wait is too long to be a duration, and then nothing is sent
and the connection is given back as it was; or if a map without entries is heard where a pair is
looked for. In all other cases it comes to an answer or an error. -/
theorem blocking_ends (connected : (connect net config).value = .ok connector) (ts : List Step)
    (slot : Option Nat) (blocks : call.BlocksFor seconds) (faultless : ∀ i kind, ¬call.FaultAt i kind)
    (response : Response) :
    let s := ((start connector).run ts).2
    let after := s.step (.call slot call response)
    (∀ e p, s.handle slot = .error (e, p) → after.1.result = .called (.error e)) ∧
    ∀ c s', s.handle slot = .ok (c, s') →
      (TooLong config.readLimit seconds →
        after.1.result = .called .panic ∧ after.1.sent = [] ∧ after.2 = s'.giveBack c) ∧
      (¬TooLong config.readLimit seconds →
        ∃ window outcome, Window config.readLimit seconds window ∧
          after.1.result = .called outcome ∧
          (outcome = .panic ↔
            ({ c with readTimeout := window } : Connection).Hears s'.now response ∧
              response.reaction = .reply (.map []) ∧
              (call.method = .blpop ∨ call.method = .brpop))) := by
  obtain ⟨f, connected⟩ := connect_ok connected
  obtain ⟨inOrder, -⟩ := run_inOrder connected ts
  have fine := Call.refusal_eq_none faultless
  simp only [step_result, step_sent, step_snd]
  refine ⟨fun e p refused => ?_, fun c s' got => ?_⟩
  · rw [act_call, refused]
  · obtain ⟨ordered, settings⟩ := handle_every (new_inOrder connected) inOrder got
    rw [← connected.readTimeout_eq]
    rcases limit?_cases connector.readTimeout blocks with ⟨long, overlong⟩ |
      ⟨short, window, isWindow, inForce⟩
    · refine ⟨fun _ => ?_, fun short => absurd long short⟩
      rw [call_overlong got settings fine overlong]
      exact ⟨rfl, rfl, rfl⟩
    · refine ⟨fun long => absurd long short, fun _ => ?_⟩
      obtain ⟨outcome, result, classified⟩ :=
        call_classified got ordered settings fine inForce response
      exact ⟨window, outcome, isWindow, result, classified.panic_iff⟩

/-- One second and as many seconds as there can be are too long together; one and five are not. -/
theorem blocking_ends_overlong :
    ∃ connector, (connect .obliging
        { host := "cache", connectionTimeout := 1000 }).value = .ok connector ∧
      let s := start connector
      (s.step (.call none ⟨.blpop, 18446744073709551615, ["jobs"], ()⟩
        ⟨.reply .nil, 0⟩)).1.result = .called .panic ∧
      (s.step (.call none ⟨.blpop, 5, ["jobs"], ()⟩ ⟨.reply .nil, 0⟩)).1.result ≠
        .called .panic := by
  have connected : (connect .obliging
      { host := "cache", connectionTimeout := 1000 }).value = .ok _ := rfl
  obtain ⟨-, overlong⟩ := blocking_ends connected [] none (.blpop 18446744073709551615 ["jobs"])
    (Call.refusal_none rfl) ⟨.reply .nil, 0⟩
  obtain ⟨-, short⟩ := blocking_ends connected [] none (.blpop 5 ["jobs"])
    (Call.refusal_none rfl) ⟨.reply .nil, 0⟩
  refine ⟨_, rfl, ((overlong _ _ rfl).1 (by decide)).1, ?_⟩
  obtain ⟨window, outcome, -, result, panics⟩ := (short _ _ rfl).2 (by decide)
  intro abrupt
  obtain rfl : outcome = .panic := StepResult.called.inj (result.symm.trans abrupt)
  obtain ⟨-, reply, -⟩ := panics.1 rfl
  cases reply

/-- With one second as the usual limit, the longest time to block leaves a call without an answer and
without an error. -/
theorem overlong_wait_ends_abruptly :
    ∃ connector, (connect .obliging
        { host := "cache", connectionTimeout := 1000 }).value = .ok connector ∧
      ((start connector).step (.call none ⟨.blpop, 18446744073709551615, ["jobs"], ()⟩
        ⟨.reply .nil, 0⟩)).1.result = .called .panic :=
  ⟨_, rfl, by decide +kernel⟩

/-! ## What the calls wait for -/

/-- After every run, a call that may block waits for its reply as long as its window says. So on a live
connection it comes to what the server replies, if the reply comes before the window has passed
since the call. In particular it comes to no value, and to no error, if the server turns to the
command within the usual limit and lets all of its time to block pass. -/
theorem blocking_awaited (connected : (connect net config).value = .ok connector) (ts : List Step)
    (slot : Option Nat) (got : ((start connector).run ts).2.handle slot = .ok (c, s'))
    (blocks : call.BlocksFor seconds) (faultless : ∀ i kind, ¬call.FaultAt i kind)
    (fits : ¬TooLong config.readLimit seconds) (response : Response) :
    let result := (((start connector).run ts).2.step (.call slot call response)).1.result
    let shape := call.method.spec.shape
    ∃ window, Window config.readLimit seconds window ∧
      result = .called
        (outcomeOf shape ({ c with readTimeout := window }.exchange s'.now response).result) ∧
      (c.isOpen = true → c.hangsUp = false →
        (∀ r, response.reaction = .reply r →
          (∀ limit, window = some limit →
            c.serverFree s'.now + response.delay < s'.now + limit.nanos) →
          result = .called (outcomeOf shape (.ok r))) ∧
        (response = ⟨.reply .nil, seconds.toNat * 10 ^ 9⟩ →
          (∀ d, config.readLimit = some d → c.serverFree s'.now < s'.now + d.nanos) →
          result = .called (.answer .absent))) := by
  intro result shape
  obtain ⟨f, connected⟩ := connect_ok connected
  obtain ⟨inOrder, -⟩ := run_inOrder connected ts
  obtain ⟨⟨usual, settled⟩, settings⟩ := handle_every (new_inOrder connected) inOrder got
  have fine := Call.refusal_eq_none faultless
  have report := (call_ran got settings call response).1
  rw [← connected.readTimeout_eq] at fits ⊢
  obtain ⟨long, -⟩ | ⟨-, window, isWindow, inForce⟩ := limit?_cases connector.readTimeout blocks
  · exact absurd long fits
  have ran : result = .called
      (outcomeOf shape ({ c with readTimeout := window }.exchange s'.now response).result) := by
    simp only [result, step_result, report, runOn_served fine usual inForce, shape]
  refine ⟨window, isWindow, ran, fun isOpen served => ?_⟩
  have delivered : ∀ r, response.reaction = .reply r →
      (∀ limit, window = some limit →
        c.serverFree s'.now + response.delay < s'.now + limit.nanos) →
      result = .called (outcomeOf shape (.ok r)) := by
    intro r reply prompt
    have heard : ({ c with readTimeout := window } : Connection).Hears s'.now response :=
      Connection.hears_of_lt isOpen served prompt
    rw [ran, Connection.exchange_reply (settled_withTimeout settled window) heard reply]
  refine ⟨delivered, fun expires turns => ?_⟩
  have absent : outcomeOf shape (.ok .nil) = .answer .absent := by
    cases blocks <;> rfl
  subst expires
  rw [← absent]
  exact delivered .nil rfl (isWindow.outlasts turns)

/-- With a usual limit of one second, a reply is awaited for all of the five seconds that the server
may take. -/
theorem blocking_awaited_expired :
    ∃ connector, (connect .obliging
        { host := "cache", connectionTimeout := 1000 }).value = .ok connector ∧
      ((start connector).step (.call none ⟨.blpop, 5, ["jobs"], ()⟩
        ⟨.reply .nil, 5 * 10 ^ 9⟩)).1.result = .called (.answer .absent) := by
  have connected : (connect .obliging
      { host := "cache", connectionTimeout := 1000 }).value = .ok _ := rfl
  obtain ⟨window, -, -, awaited⟩ := blocking_awaited connected [] none rfl (.blpop 5 ["jobs"])
    (Call.refusal_none rfl) (by decide) ⟨.reply .nil, 5 * 10 ^ 9⟩
  refine ⟨_, rfl, (awaited rfl rfl).2 rfl fun d h => ?_⟩
  have limit : some (.ofMillis 1000) = some d := h
  cases limit
  decide

end Session

end RedisClient
