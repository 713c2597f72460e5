import RedisClient.Proofs.Connector.Outcomes
import RedisClient.Proofs.Session.Connections

/-!
# Classes of outcomes

A call whose arguments pass their checks has the outcome that belongs to what the client hears from
the server: `Classified` has one case for a reply that holds an error, one for a reply that holds
none, and one for everything that the client does not hear of. Every call of every run is
`Classified` (`outcomes_classified`). An answer apart, its outcome is a failure of the server or of
the connection, or a complaint about a type; the only exception is a map without entries where a
pair is looked for, on which the call ends abruptly.
-/

namespace RedisClient

/-- Only the methods that wait for one of several lists look for a pair. -/
theorem Method.shape_eq_optionalPair {m : Method} :
    m.spec.shape = .optionalPair ↔ m = .blpop ∨ m = .brpop := by
  cases m <;> simp

/-- How the outcome of a call follows from what the server does, and from whether that is heard
of. -/
structure Connector.Classified (call : Call) (heard : Prop) (reaction : Reaction)
    (outcome : Connector.Outcome) : Prop where
  /-- The first error anywhere in the reply is the outcome, whatever the method asks for. -/
  failed : ∀ r e, heard → reaction = .reply r → r.errors.head? = some e →
    outcome = .error (.server e.failure.code? e.failure.serverMessage)
  /-- Without an error the outcome is the value, or a complaint that it is of another type. -/
  read : ∀ r, heard → reaction = .reply r → r.errors = [] →
    ¬((call.method = .blpop ∨ call.method = .brpop) ∧ r = .map []) →
    (∃ a, call.method.spec.shape.ofValue r = .ok a ∧ outcome = .answer a) ∨
      ∃ f, call.method.spec.shape.ofValue r = .error f ∧ outcome = .error (.unexpected f.text)
  crashed : ∀ r, heard → reaction = .reply r →
    (call.method = .blpop ∨ call.method = .brpop) ∧ r = .map [] → outcome = .panic
  /-- Without a reply in time there is an error of the server that has no code. -/
  unheard : (heard → reaction = .hangUp) → ∃ message, outcome = .error (.server none message)

/-- A call that is sent ends abruptly on a map without entries that is looked at for a pair, and on
nothing else. -/
theorem Connector.Classified.panic_iff {call : Call} {heard : Prop} {reaction : Reaction}
    {outcome : Connector.Outcome} (h : Connector.Classified call heard reaction outcome) :
    outcome = .panic ↔ heard ∧ reaction = .reply (.map []) ∧
      (call.method = .blpop ∨ call.method = .brpop) := by
  constructor
  · rintro rfl
    by_cases heard' : heard ∧ ∃ r, reaction = .reply r
    · obtain ⟨heard', r, reply⟩ := heard'
      cases errors : r.errors with
      | cons e others =>
        have failed := h.failed r e heard' reply (by rw [errors]; rfl)
        cases failed
      | nil =>
        by_cases pair : (call.method = .blpop ∨ call.method = .brpop) ∧ r = .map []
        · obtain ⟨pair, rfl⟩ := pair
          exact ⟨heard', reply, pair⟩
        · rcases h.read r heard' reply errors pair with ⟨a, -, eq⟩ | ⟨f, -, eq⟩ <;> cases eq
    · have ends : heard → reaction = .hangUp := by
        intro heard''
        cases reaction with
        | hangUp => rfl
        | reply r => exact absurd ⟨heard'', r, rfl⟩ heard'
      obtain ⟨message, eq⟩ := h.unheard ends
      cases eq
  · rintro ⟨heard, reply, pair⟩
    exact h.crashed _ heard reply ⟨pair, rfl⟩

namespace Session

open Connector

variable {s s' : Session} {c : Connection} {connector : Connector} {slot : Option Nat} {call : Call}
  {response : Response} {net : Network} {config : Config} {limit : Option Duration}

/-- A call on a connection that is in order has the outcome that belongs to what is heard. -/
theorem call_classified (got : s.handle slot = .ok (c, s'))
    (ordered : c.InOrder connector.readTimeout) (settings : Settings connector s')
    (fine : call.refusal? = none) (inForce : limit? connector.readTimeout call = some limit)
    (response : Response) :
    ∃ outcome, (s.act (.call slot call response)).1.result = .called outcome ∧
      Classified call (({ c with readTimeout := limit } : Connection).Hears s'.now response)
        response.reaction outcome := by
  obtain ⟨usual, settled⟩ := ordered
  obtain ⟨report, -⟩ := call_ran got settings call response
  refine ⟨_, congrArg Report.result report, ?_⟩
  constructor
  case failed =>
    intro r e heard reply error
    rw [runOn_reply fine usual inForce settled heard reply]
    exact outcomeOf_of_error error
  case read =>
    intro r heard reply clean fine'
    rw [runOn_reply fine usual inForce settled heard reply]
    rw [← Method.shape_eq_optionalPair] at fine'
    exact outcomeOf_of_value clean fine'
  case crashed =>
    intro r heard reply crash
    rw [runOn_reply fine usual inForce settled heard reply]
    rw [← Method.shape_eq_optionalPair] at crash
    obtain ⟨pair, rfl⟩ := crash
    rw [pair]
    exact outcomeOf_crash
  case unheard => exact fun unheard => runOn_unheard fine usual inForce settled unheard _

/-- After every run, a valid call has the outcome that belongs to what its connection hears under
the limit in force. -/
theorem outcomes_classified (connected : (connect net config).value = .ok connector)
    (ts : List Step) (slot : Option Nat) (call : Call) (response : Response)
    (got : ((start connector).run ts).2.handle slot = .ok (c, s'))
    (valid : call.Valid config.readLimit) :
    ∃ limit outcome, limit? config.readLimit call = some limit ∧
      (((start connector).run ts).2.step (.call slot call response)).1.result = .called outcome ∧
      Classified call (({ c with readTimeout := limit } : Connection).Hears s'.now response)
        response.reaction outcome := by
  obtain ⟨f, connected⟩ := connect_ok connected
  obtain ⟨inOrder, -⟩ := run_inOrder connected ts
  obtain ⟨ordered, settings⟩ := handle_every (new_inOrder connected) inOrder got
  rw [← connected.readTimeout_eq] at valid ⊢
  obtain ⟨limit, inForce⟩ := valid.limit
  obtain ⟨outcome, result, classified⟩ :=
    call_classified got ordered settings valid.fine inForce response
  rw [step_result]
  exact ⟨limit, outcome, inForce, result, classified⟩

/-- An error inside a list inside a list is found, though a text was asked for. -/
theorem outcomes_classified_nested :
    ∃ connector, (connect .obliging { host := "cache" }).value = .ok connector ∧
      ((start connector).step (.call none ⟨.lpop, "jobs", ()⟩
        ⟨.reply (.array [.int 1, .array [.error ⟨"MOVED", some "7 cache:6380"⟩]]), 0⟩)).1.result =
        .called (.error (.server (some "MOVED") "MOVED 7 cache:6380")) := by
  let response : Response :=
    ⟨.reply (.array [.int 1, .array [.error ⟨"MOVED", some "7 cache:6380"⟩]]), 0⟩
  let call : Call := ⟨.lpop, "jobs", ()⟩
  have connected : (connect .obliging { host := "cache" }).value = .ok _ := rfl
  obtain ⟨limit, outcome, inForce, result, classified⟩ :=
    outcomes_classified connected [] none call response rfl
      ⟨Call.refusal_none rfl, fun d n limit => by cases limit⟩
  cases inForce
  have error : outcome = .error (.server (some "MOVED") "MOVED 7 cache:6380") := by
    refine classified.failed _ _ ?_ rfl rfl
    exact (Connection.Clean.hears_iff ⟨rfl, rfl, rfl⟩).2 fun limit unlimited => by cases unlimited
  exact ⟨_, rfl, error ▸ result⟩

/-- A map without entries instead of a list and its element: there is no answer, and no error. -/
theorem blpop_ends_abruptly :
    ∃ connector, (connect .obliging { host := "cache" }).value = .ok connector ∧
      ((start connector).step
        (.call none ⟨.blpop, 5, ["jobs"], ()⟩ ⟨.reply (.map []), 0⟩)).1.result =
        .called .panic :=
  ⟨_, rfl, by decide +kernel⟩

end Session

end RedisClient
