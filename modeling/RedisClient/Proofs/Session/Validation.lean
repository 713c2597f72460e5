import RedisClient.Proofs.Command.Layout
import RedisClient.Proofs.Connector.Outcomes
import RedisClient.Proofs.Session.Connections

/-!
# Checks of arguments

Arguments are checked before anything is sent: a call with a faulty argument fails with the class of
its first fault, and its connection is given back as it was (`call_refused`). A call without faults
is sent as one command (`call_sent`). So all commands that a server receives are well-formed
(`act_sent`).
-/

namespace RedisClient.Session

variable {s s' : Session} {c : Connection} {connector : Connector} {slot : Option Nat} {call : Call}
  {e : Error} {net : Network} {config : Config}

/-- A call whose arguments are refused gives its connection back, and does nothing else. -/
theorem call_refused (got : s.handle slot = .ok (c, s')) (refused : call.refusal? = some e)
    (response : Response) :
    s.act (.call slot call response) = (⟨.called (.error e), [], [], none⟩, s'.giveBack c) :=
  call_unsent got (Connector.runOn_refused refused)

/-- A call whose arguments are not refused is sent as one command, on a connection that is open at
both ends. -/
theorem call_sent (got : s.handle slot = .ok (c, s')) (fine : call.refusal? = none)
    (usual : c.readTimeout = connector.readTimeout) (settings : Settings connector s')
    (open_ : c.isOpen = true) (served : c.hangsUp = false)
    (fits : ∀ d n, connector.readTimeout = some d → call.blockSeconds? = some n →
      d.nanos + n.toNat * 10 ^ 9 < 2 ^ 64 * 10 ^ 9) (response : Response) :
    (s.act (.call slot call response)).1.sent = [call.command] := by
  obtain ⟨limit, inForce⟩ := Connector.limit?_of_fits fits
  rw [(call_ran got settings call response).1]
  exact Connector.runOn_received fine usual inForce open_ served _ _ _

/-- What the server can receive because of a call: nothing, or its command if its arguments are not
refused. -/
theorem call_received (s : Session) (slot : Option Nat) (call : Call) (response : Response) :
    (s.act (.call slot call response)).1.sent = [] ∨
      call.refusal? = none ∧ (s.act (.call slot call response)).1.sent = [call.command] := by
  rw [act_call]
  cases got : s.handle slot with
  | ok pair =>
    exact Connector.runOn_sent pair.1 pair.2.connector.mode.isPooled
      pair.2.connector.readTimeout pair.2.now call response
  | error pair => exact .inl rfl

/-- What the server can receive because of a step: nothing, the command of a call whose arguments
are not refused, or a goodbye. -/
theorem act_sent (s : Session) (t : Step) :
    (s.act t).1.sent = [] ∨
    (∃ slot call response, t = .call slot call response ∧ call.refusal? = none ∧
      (s.act t).1.sent = [call.command]) ∨
    (s.act t).1.sent = [["QUIT"]] := by
  cases t with
  | call slot call response =>
    exact (call_received s slot call response).imp_right fun sent =>
      .inl ⟨slot, call, response, rfl, sent⟩
  | hold =>
    left
    simp only [act, hold]
    split <;> rfl
  | release slot =>
    left
    simp only [act, release]
    split <;> rfl
  | describe => exact .inl rfl
  | close response => exact (Connector.close_sent _ _ _).imp_right .inr

/-- No step makes the server receive a command that is not well-formed, or more than one. -/
theorem act_wellFormed (s : Session) (t : Step) :
    (s.act t).1.sent.length ≤ 1 ∧ ∀ words ∈ (s.act t).1.sent, WellFormed words := by
  rcases act_sent s t with sent | ⟨slot, call, response, -, fine, sent⟩ | sent <;> rw [sent]
  · simp
  · refine ⟨Nat.le_refl 1, fun words mem => ?_⟩
    rw [List.mem_singleton.1 mem]
    exact Call.command_wellFormed fine
  · refine ⟨Nat.le_refl 1, fun words mem => ?_⟩
    rw [List.mem_singleton.1 mem]
    trivial

/-- After every run, a call that gets a connection fails if an argument is faulty, with the class of
the first fault; nothing is sent, and the connection is given back. If no argument is faulty, its
command and no other is received, as long as the connection is live and the time to wait is a
duration. And the server has never received a command with an empty key, or without its keys or
values. -/
theorem arguments_checked (connected : (Connector.connect net config).value = .ok connector)
    (ts : List Step) :
    let s := ((start connector).run ts).2
    (∀ slot call response c s', s.handle slot = .ok (c, s') →
      let after := s.step (.call slot call response)
      ((∃ i kind, call.FaultAt i kind) →
        ∃ i kind message, call.FirstFault i kind ∧
          after.1.result = .called (.error (.argument kind message)) ∧ after.1.sent = [] ∧
          after.2 = s'.giveBack c) ∧
      ((∀ i kind, ¬call.FaultAt i kind) → c.isOpen = true → c.hangsUp = false →
        (∀ d n, config.readLimit = some d → call.blockSeconds? = some n →
          d.nanos + n.toNat * 10 ^ 9 < 2 ^ 64 * 10 ^ 9) →
        after.1.sent = [call.command])) ∧
    ∀ r ∈ ((start connector).run ts).1, r.sent.length ≤ 1 ∧ ∀ words ∈ r.sent, WellFormed words := by
  obtain ⟨f, connected⟩ := Connector.connect_ok connected
  obtain ⟨inOrder, -⟩ := run_inOrder connected ts
  refine ⟨fun slot call response c s' got => ?_, fun r mem => ?_⟩
  · obtain ⟨⟨usual, -⟩, settings⟩ := handle_every (new_inOrder connected) inOrder got
    simp only [step_result, step_sent, step_snd]
    refine ⟨fun ⟨i, kind, fault⟩ => ?_, fun faultless open_ served fits => ?_⟩
    · cases refused : call.refusal? with
      | none => exact absurd fault (Call.refusal_none refused i kind)
      | some e =>
        obtain ⟨i, kind, first, message, rfl⟩ := Call.refusal_some refused
        rw [call_refused got refused]
        exact ⟨i, kind, message, first, rfl, rfl, rfl⟩
    · have fine := Call.refusal_eq_none faultless
      rw [← connected.readTimeout_eq] at fits
      exact call_sent got fine usual settings open_ served fits response
  · obtain ⟨i, report⟩ := List.mem_iff_getElem?.1 mem
    obtain ⟨t, -, rfl⟩ := run_report report
    rw [step_sent]
    exact act_wellFormed _ t

/-- A key without a name is refused, and a key with one is sent. -/
theorem arguments_checked_set :
    ∃ connector, (Connector.connect .obliging { host := "cache" }).value = .ok connector ∧
      let s := start connector
      (∃ message, (s.step (.call none ⟨.set, "", "on", ()⟩ ⟨.reply .okay, 0⟩)).1.result =
        .called (.error (.argument .key message))) ∧
      (s.step (.call none ⟨.set, "flag", "on", ()⟩ ⟨.reply .okay, 0⟩)).1.sent =
        [["SET", "flag", "on"]] := by
  have connected : (Connector.connect .obliging { host := "cache" }).value = .ok _ := rfl
  obtain ⟨calls, -⟩ := arguments_checked connected []
  obtain ⟨faulty, -⟩ := calls none ⟨.set, "", "on", ()⟩ ⟨.reply .okay, 0⟩ _ _ rfl
  obtain ⟨-, faultless⟩ := calls none ⟨.set, "flag", "on", ()⟩ ⟨.reply .okay, 0⟩ _ _ rfl
  refine ⟨_, rfl, ?_, faultless (Call.refusal_none rfl) rfl rfl (fun d n limit => by cases limit)⟩
  obtain ⟨i, kind, message, -, result, -⟩ := faulty ⟨0, .key, rfl, rfl⟩
  exact ⟨message, by cases result; rfl⟩

end RedisClient.Session
