import RedisClient.Proofs.Session.Connections

/-!
# Read timeouts

A command that may block changes the read timeout of its connection, and changes it back before the
connection is given back. So between calls all connections have the read timeout that they were set
up with (`readTimeout_restored`): a call that does not block waits under it, and a call that blocks
has no influence on other connections.
-/

namespace RedisClient.Session

variable {s s' : Session} {c : Connection} {connector : Connector} {slot : Option Nat}
  {call : Call} {net : Network} {config : Config}

/-- A call empties its slot and touches nothing else that is held. -/
theorem call_held (s : Session) (slot : Option Nat) (call : Call) (response : Response) :
    (s.act (.call slot call response)).2.held =
      s.held.filter fun entry => some entry.1 != slot := by
  have same (fresh : s.Fresh slot) :
      s.held.filter (fun entry => some entry.1 != slot) = s.held := by
    refine List.filter_eq_self.2 fun entry mem => ?_
    have ne : slot ≠ some entry.1 := by
      intro h
      exact not_mem_slots (fresh _ h) (mem_slots mem)
    simpa using ne.symm
  rw [act_call]
  rcases handle_cases s slot with ⟨n, c, rfl, inSlot, eq⟩ | ⟨fresh, c, p, lent, eq⟩ |
    ⟨fresh, e, p, refused, eq⟩ <;> rw [eq]
  · exact List.filter_congr fun _ _ => rfl
  · exact (same fresh).symm
  · exact (same fresh).symm

/-- What is idle after a call is the connection that it ran on, or was idle before, or is new. -/
theorem call_idle (got : s.handle slot = .ok (c, s')) (call : Call) (response : Response) :
    ∀ d ∈ (s'.runOn c call response).2.connector.pool.idle,
      d = (Connector.runOn c s'.connector.mode.isPooled s'.connector.readTimeout s'.now call
        response).connection ∨
      d ∈ s.connector.pool.idle ∨ Pool.New s.connector.opener d := by
  intro d hd
  rcases handle_cases s slot with ⟨n, c, -, -, eq⟩ | ⟨-, c, p, lent, eq⟩ | ⟨-, e, p, -, eq⟩ <;>
    rw [eq] at got <;> cases got
  · exact ((Pool.giveBack_takenBack _ _ _).idle d hd).imp And.left (.imp_right fun new => new.new)
  · rcases (Pool.giveBack_takenBack _ _ _).idle d hd with ⟨back, -⟩ | idle | opened
    · exact .inl back
    · exact .inr (((Pool.borrow_lent lent).idle d idle).imp_right fun new => new.new)
    · exact .inr (.inr opened.new)

/-- A call that does not block waits for its reply as long as its connection always does. -/
theorem call_waits (got : s.handle slot = .ok (c, s'))
    (usual : c.readTimeout = connector.readTimeout) (settings : Settings connector s')
    (fine : call.refusal? = none) (prompt : call.blockSeconds? = none) (response : Response) :
    (s.act (.call slot call response)).1.result =
      .called (Connector.outcomeOf call.method.spec.shape (c.exchange s'.now response).result) := by
  have limit : Connector.limit? connector.readTimeout call = some connector.readTimeout :=
    Connector.limit?_of_not_blocking prompt
  rw [(call_ran got settings call response).1, Connector.runOn_served fine usual limit,
    Connector.restored usual]

/-- After every run the connections that are idle, and those that are held, wait for a reply as long
as they did when they were set up. So does the connection of the next call while it waits, unless
the call may block; and whatever the call comes to, it leaves all other connections as they were. -/
theorem readTimeout_restored (connected : (Connector.connect net config).value = .ok connector)
    (ts : List Step) :
    let s := ((start connector).run ts).2
    connector.readTimeout = config.readLimit ∧
    (∀ d, Pool.New connector.opener d → d.readTimeout = connector.readTimeout) ∧
    (∀ d ∈ s.connector.pool.idle, d.readTimeout = connector.readTimeout) ∧
    (∀ n d, (n, d) ∈ s.held → d.readTimeout = connector.readTimeout) ∧
    ∀ slot call response c s', s.handle slot = .ok (c, s') →
      let after := s.step (.call slot call response)
      c.readTimeout = connector.readTimeout ∧
      (call.refusal? = none → call.blockSeconds? = none → after.1.result =
        .called (Connector.outcomeOf call.method.spec.shape (c.exchange s'.now response).result)) ∧
      after.2.held = s.held.filter (fun entry => some entry.1 != slot) ∧
      ∃ left, left.readTimeout = connector.readTimeout ∧
        ∀ d ∈ after.2.connector.pool.idle,
          d = left ∨ d ∈ s.connector.pool.idle ∨ Pool.New connector.opener d := by
  obtain ⟨f, connected⟩ := Connector.connect_ok connected
  obtain ⟨inOrder, -⟩ := run_inOrder connected ts
  refine ⟨connected.readTimeout_eq, fun d opened => connected.new_readTimeout opened,
    fun d hd => (inOrder.idle d hd).readTimeout,
    fun n d hd => (inOrder.held n d hd).readTimeout, ?_⟩
  intro slot call response c s' got
  obtain ⟨⟨usual, -⟩, settings⟩ := handle_every (new_inOrder connected) inOrder got
  simp only [step_result, step_snd]
  refine ⟨usual, fun fine prompt => call_waits got usual settings fine prompt response,
    call_held _ slot call response, ?_⟩
  have idle := call_idle got call response
  rw [settings.readTimeout, inOrder.settings.opener] at idle
  rw [act_call, got]
  exact ⟨_, Connector.runOn_readTimeout usual, idle⟩

/-- A list is awaited for longer than the connection usually waits; a later command on the same
connection waits as long as usual. -/
theorem readTimeout_restored_after_blpop :
    ∃ connector, (Connector.connect .obliging
        { host := "cache", connectionTimeout := 1000 }).value = .ok connector ∧
      let s := ((start connector).run
        [.call none ⟨.blpop, 5, ["jobs"], ()⟩ ⟨.reply .nil, 3 * 10 ^ 9⟩]).2
      ∃ c s', s.handle none = .ok (c, s') ∧ c.readTimeout = some (.ofMillis 1000) ∧
        (s.step (.call none ⟨.get, "key", ()⟩ ⟨.reply .nil, 0⟩)).1.result =
          .called (Connector.outcomeOf .optionalText
            (c.exchange s'.now ⟨.reply .nil, 0⟩).result) := by
  obtain ⟨connector, connected, lent⟩ : ∃ connector, (Connector.connect .obliging
      { host := "cache", connectionTimeout := 1000 }).value = .ok connector ∧
      (((start connector).run [.call none ⟨.blpop, 5, ["jobs"], ()⟩
        ⟨.reply .nil, 3 * 10 ^ 9⟩]).2.handle none).isOk = true := ⟨_, rfl, by decide +kernel⟩
  obtain ⟨limit, -, -, -, next⟩ := readTimeout_restored connected
    [.call none ⟨.blpop, 5, ["jobs"], ()⟩ ⟨.reply .nil, 3 * 10 ^ 9⟩]
  refine ⟨connector, connected, ?_⟩
  intro s
  have lent : (s.handle none).isOk = true := lent
  cases got : s.handle none with
  | error e => simp [got, Except.isOk, Except.toBool] at lent
  | ok pair =>
    obtain ⟨c, s'⟩ := pair
    obtain ⟨usual, waits, -⟩ := next none ⟨.get, "key", ()⟩ ⟨.reply .nil, 0⟩ c s' got
    exact ⟨c, s', rfl, usual.trans limit, waits rfl rfl⟩

end RedisClient.Session
