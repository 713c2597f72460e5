import RedisClient.Proofs.Session.Connections

/-!
# Attribution of replies

A command that was given up leaves its reply on the connection, and the connection goes back to the
pool with it. Since all connections stay settled, such a reply is thrown away when it comes: an
answer is always read from the reply to the command itself (`replies_attributed`).
-/

namespace RedisClient.Session

variable {s s' : Session} {c : Connection} {connector : Connector} {slot : Option Nat} {call : Call}
  {response : Response} {a : Answer} {r : Report} {net : Network} {config : Config}

/-- A call that comes to an answer got a connection, and the answer was read from its own reply. -/
theorem call_attributed {f : Factory} (connected : Connector.Connected net config connector f)
    (inOrder : Every connector (Connection.InOrder connector.readTimeout) none s)
    (answered : (s.act (.call slot call response)).1.result = .called (.answer a)) :
    ∃ reply limit, response.reaction = .reply reply ∧ call.method.spec.shape.read reply = .ok a ∧
      Connector.limit? connector.readTimeout call = some limit ∧
      ∀ d, limit = some d → response.delay < d.nanos := by
  rw [act_call] at answered
  cases got : s.handle slot with
  | ok pair =>
    obtain ⟨c, s'⟩ := pair
    obtain ⟨⟨usual, settled⟩, settings⟩ := handle_every (new_inOrder connected) inOrder got
    simp only [got, runOn, settings.readTimeout, StepResult.called.injEq] at answered
    exact Connector.runOn_answer usual settled answered
  | error pair =>
    simp [got] at answered

/-- Whenever a call of a run comes to an answer, the answer was read from the server's reply to this
very command, and this reply came within the read timeout in force. -/
theorem replies_attributed (connected : (Connector.connect net config).value = .ok connector)
    {ts : List Step} {i : Nat} (step : ts[i]? = some (.call slot call response))
    (report : ((start connector).run ts).1[i]? = some r)
    (answered : r.result = .called (.answer a)) :
    ∃ reply limit, response.reaction = .reply reply ∧ call.method.spec.shape.read reply = .ok a ∧
      Connector.limit? connector.readTimeout call = some limit ∧
      ∀ d, limit = some d → response.delay < d.nanos := by
  obtain ⟨f, connected⟩ := Connector.connect_ok connected
  obtain ⟨t, here, rfl⟩ := run_report report
  obtain rfl : t = .call slot call response := by simpa [step] using here.symm
  obtain ⟨inOrder, -⟩ := run_inOrder connected (ts.take i)
  rw [step_result] at answered
  exact call_attributed connected inOrder answered

/-- The reply to a command that was given up comes while the next one waits, and is not taken for an
answer to it. -/
theorem replies_attributed_after_timeout :
    ∃ connector, (Connector.connect .obliging
        { host := "cache", connectionTimeout := 1000 }).value = .ok connector ∧
      let reports := ((start connector).run
        [.call none ⟨.incr, "hits", ()⟩ ⟨.reply (.int 1), 1500000000⟩,
          .call none ⟨.incr, "hits", ()⟩ ⟨.reply (.int 2), 0⟩]).1
      reports.map Report.result = [.called (.error Connection.timedOut.toError),
        .called (.answer (.int 2))] ∧
      ∃ reply, Reaction.reply (.int 2) = .reply reply ∧ Shape.int.read reply = .ok (.int 2) := by
  obtain ⟨connector, connected, results⟩ : ∃ connector, (Connector.connect .obliging
      { host := "cache", connectionTimeout := 1000 }).value = .ok connector ∧
      (((start connector).run [.call none ⟨.incr, "hits", ()⟩ ⟨.reply (.int 1), 1500000000⟩,
          .call none ⟨.incr, "hits", ()⟩ ⟨.reply (.int 2), 0⟩]).1).map Report.result =
        [.called (.error Connection.timedOut.toError), .called (.answer (.int 2))] :=
    ⟨_, rfl, by decide +kernel⟩
  refine ⟨connector, connected, results, ?_⟩
  have second := congrArg (fun results => results[1]?) results
  rw [List.getElem?_map] at second
  obtain ⟨r, report, answered⟩ := Option.map_eq_some_iff.1 second
  obtain ⟨reply, -, own, read, -⟩ := replies_attributed connected rfl report answered
  exact ⟨reply, own, read⟩

end RedisClient.Session
