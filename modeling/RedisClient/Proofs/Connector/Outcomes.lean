import RedisClient.Proofs.Connection.Hearing
import RedisClient.Proofs.Connector.Calls
import RedisClient.Proofs.Reply.Reading

/-!
# What calls come to

The outcome of a call that passes its checks depends on whether its reply is heard of. If so, the
outcome is read from the reply: an error in it makes the call fail as the server has it, and
otherwise there is an answer or a complaint about a type (`outcomeOf_of_error`,
`outcomeOf_of_value`). If not, the call fails as the operating system has it, which callers see as
an error of the server without a code (`runOn_unheard`). On a lost connection nothing is sent
(`runOn_lost`).
-/

namespace RedisClient

/-- No argument of the call has a fault, and the time to wait for its reply is a duration. -/
structure Call.Valid (base : Option Duration) (call : Call) : Prop where
  faultless : ∀ i kind, ¬call.FaultAt i kind
  fits : ∀ d n, base = some d → call.blockSeconds? = some n →
    d.nanos + n.toNat * 10 ^ 9 < 2 ^ 64 * 10 ^ 9

namespace Call.Valid

variable {base : Option Duration} {call : Call}

theorem fine (h : call.Valid base) : call.refusal? = none := Call.refusal_eq_none h.faultless

theorem limit (h : call.Valid base) : ∃ limit, Connector.limit? base call = some limit :=
  Connector.limit?_of_fits h.fits

end Call.Valid

namespace Connector

variable {c : Connection} {pooled : Bool} {base limit : Option Duration} {now : Nat} {call : Call}
  {response : Response} {shape : Shape} {r : Reply}

/-! ## Reading the outcome from a reply -/

theorem outcomeOf_of_error {e : ErrorReply} (h : r.errors.head? = some e) :
    outcomeOf shape (.ok r) = .error (.server e.failure.code? e.failure.serverMessage) := by
  have whole : shape.crashes r = false := by
    rw [Bool.eq_false_iff]
    intro crashes
    obtain ⟨-, rfl⟩ := Shape.crashes_iff.1 crashes
    cases h
  simp only [outcomeOf, whole, Bool.false_eq_true, if_false, Shape.read_of_error h,
    ErrorReply.failure_toError]

/-- Without an error in the reply there is an answer, or something is of the wrong type. -/
theorem outcomeOf_of_value (h : r.errors = []) (fine : ¬(shape = .optionalPair ∧ r = .map [])) :
    (∃ a, shape.ofValue r = .ok a ∧ outcomeOf shape (.ok r) = .answer a) ∨
      ∃ f, shape.ofValue r = .error f ∧
        outcomeOf shape (.ok r) = .error (.unexpected f.text) := by
  have whole : shape.crashes r = false := by
    rw [Bool.eq_false_iff]
    exact fun crashes => fine (Shape.crashes_iff.1 crashes)
  simp only [outcomeOf, whole, Bool.false_eq_true, if_false, Shape.read_of_value h]
  cases value : shape.ofValue r with
  | ok a => exact .inl ⟨a, rfl, rfl⟩
  | error f =>
    have wrong := Failure.toError_of_type (Shape.ofValue_mistyped shape r f value)
    exact .inr ⟨f, rfl, congrArg Outcome.error wrong⟩

theorem outcomeOf_crash : outcomeOf .optionalPair (.ok (.map [])) = .panic := rfl

/-! ## Calls that are sent -/

theorem settled_withTimeout (h : c.Settled) (limit : Option Duration) :
    ({ c with readTimeout := limit } : Connection).Settled := h

/-- A reply that is heard of decides the outcome, and nothing is left on its way. -/
theorem runOn_reply (fine : call.refusal? = none) (usual : c.readTimeout = base)
    (inForce : limit? base call = some limit) (settled : c.Settled)
    (heard : ({ c with readTimeout := limit } : Connection).Hears now response)
    (reply : response.reaction = .reply r) :
    runOn c pooled base now call response =
      ⟨outcomeOf call.method.spec.shape (.ok r), c.serverFree now + response.delay,
        [call.command], [.sending call.commandName pooled], { c with skip := 0, inbox := [] }⟩ := by
  rw [runOn_served fine usual inForce,
    Connection.exchange_reply (settled_withTimeout settled limit) heard reply, ← usual]
  rfl

/-- Without a reply that is heard of, a call fails as if the server were to blame. -/
theorem runOn_unheard (fine : call.refusal? = none) (usual : c.readTimeout = base)
    (inForce : limit? base call = some limit) (settled : c.Settled)
    (unheard : ({ c with readTimeout := limit } : Connection).Hears now response →
      response.reaction = .hangUp) (pooled : Bool) :
    ∃ message,
      (runOn c pooled base now call response).outcome = .error (.server none message) := by
  obtain ⟨cause, failed⟩ :=
    Connection.exchange_unheard (settled_withTimeout settled limit) unheard
  refine ⟨cause, ?_⟩
  rw [runOn_served fine usual inForce]
  simp only [failed, outcomeOf]
  rfl

/-- The command of a call is received if the connection is open and the server stays. -/
theorem runOn_received (fine : call.refusal? = none) (usual : c.readTimeout = base)
    (inForce : limit? base call = some limit) (isOpen : c.isOpen = true)
    (served : c.hangsUp = false) (pooled : Bool) (now : Nat) (response : Response) :
    (runOn c pooled base now call response).sent = [call.command] := by
  have received :
      ({ c with readTimeout := limit }.exchange now response).received = true := by
    rw [Connection.exchange_received, Bool.and_eq_true, Bool.not_eq_true']
    exact ⟨isOpen, served⟩
  rw [runOn_served fine usual inForce]
  simp only [received, if_true]

/-- When the server hangs up instead of replying, the connection is lost; it is closed at once if
the client learns of it in time. -/
theorem runOn_hangUp (fine : call.refusal? = none) (usual : c.readTimeout = base)
    (inForce : limit? base call = some limit) (settled : c.Settled)
    (ends : response.reaction = .hangUp) (pooled : Bool) (now : Nat) :
    let left := (runOn c pooled base now call response).connection
    left.Lost ∧ (({ c with readTimeout := limit } : Connection).Hears now response →
      left.isOpen = false) := by
  have lost := Connection.exchange_hangUp_lost { c with readTimeout := limit } now ends
  rw [runOn_served fine usual inForce]
  refine ⟨lost, fun heard => ?_⟩
  simp only [Connection.exchange_end (settled_withTimeout settled limit) heard ends]

/-! ## Lost connections -/

/-- A call on a lost connection fails, and nothing is sent. -/
theorem runOn_lost (fine : call.refusal? = none) (usual : c.readTimeout = base)
    (inForce : limit? base call = some limit) (settled : c.Settled) (lost : c.Lost)
    (pooled : Bool) (now : Nat) (response : Response) :
    (∃ message,
      (runOn c pooled base now call response).outcome = .error (.server none message)) ∧
    (runOn c pooled base now call response).sent = [] := by
  have lost : ({ c with readTimeout := limit } : Connection).Lost := lost
  constructor
  · exact runOn_unheard fine usual inForce settled (fun heard => absurd heard lost.not_hears) pooled
  · rw [runOn_served fine usual inForce]
    simp [(Connection.exchange_lost lost now response).1]

/-- No call finds a connection again that was lost. -/
theorem runOn_keeps_lost (usual : c.readTimeout = base) (lost : c.Lost) :
    (runOn c pooled base now call response).connection.Lost := by
  subst usual
  rcases runOn_cases c pooled now call response with ⟨e, -, eq⟩ | ⟨-, -, eq⟩ | ⟨-, limit, -, eq⟩ <;>
    rw [eq]
  · exact lost
  · exact lost
  · have lost : ({ c with readTimeout := limit } : Connection).Lost := lost
    exact (Connection.exchange_lost lost now response).2

/-- Where no hang-up goes unnoticed, calls leave connections behind on which the server stays. -/
theorem runOn_serving (usual : c.readTimeout = base) (settled : c.Settled)
    (served : c.hangsUp = false)
    (notices : ∀ limit, call.refusal? = none → limit? base call = some limit →
      ({ c with readTimeout := limit } : Connection).Notices now response) :
    (runOn c pooled base now call response).connection.hangsUp = false := by
  subst usual
  rcases runOn_cases c pooled now call response with ⟨e, -, eq⟩ | ⟨-, -, eq⟩ |
    ⟨fine, limit, inForce, eq⟩ <;> rw [eq]
  · exact served
  · exact served
  · have served : ({ c with readTimeout := limit } : Connection).hangsUp = false := served
    exact Connection.exchange_serving (settled_withTimeout settled limit) served
      (notices limit fine inForce)

/-- A goodbye on a lost connection is not sent. -/
theorem sayGoodbye_lost (lost : c.Lost) (now : Nat) (response : Response) :
    (sayGoodbye c now response).sent = [] := by
  simp [sayGoodbye, (Connection.exchange_lost lost now response).1]

/-! ## The set-up -/

/-- No call changes what set its connection up. -/
theorem runOn_setup (usual : c.readTimeout = base) :
    (runOn c pooled base now call response).connection.setup = c.setup := by
  subst usual
  rcases runOn_cases c pooled now call response with ⟨e, -, eq⟩ | ⟨-, -, eq⟩ | ⟨-, limit, -, eq⟩ <;>
    rw [eq]
  exact Connection.exchange_setup _ _ _

end Connector

end RedisClient
