import RedisClient.Proofs.Connector.Connecting
import RedisClient.Proofs.Connector.Opening
import RedisClient.Proofs.Text.Blank

/-!
# The set-up that a configuration asks for

`Config.greetings` spells out, from the settings as they were given, what a connection to a single
server is told before its first use. Settings pass through options, a target and a plan before they
reach a connection, each of which drops what is "not set" once more; the plan still asks for the
same (`Config.plan_greetings`). If the server takes the password at once, a connection is told
exactly that (`Config.opened_setup`), and a server that refuses one of the greetings gets no
connection (`Config.opener_rejected`), with one exception: a second complaint about the number of
arguments is let pass, and with it the answer to the database. Answers to the remarks about the
software play no part (`Factory.opener_congr`).
-/

namespace RedisClient

/-! ## From settings to greetings -/

namespace Config

variable {config : Config} {a : Address}

/-- What a connection to a single server is told before its first use: the password as it is, unless
it is blank; the database if it is not the first one; two remarks about the software; and the name
without its blank ends, unless it is blank. -/
def greetings (config : Config) : List Greeting :=
  (match config.password with
    | some password => if Text.isBlankText password then [] else [.auth password]
    | none => []) ++
  (if 0 < config.database then [.select config.database] else []) ++
  [.setInfo, .setInfo] ++
  if Text.isBlankText config.clientName then [] else [.setName (Text.trimmed config.clientName)]

theorem target_password (config : Config) (a : Address) :
    (config.target a).password = unlessBlank config.password := unlessBlank_idem config.password

theorem target_clientName (config : Config) (a : Address) : (config.target a).clientName =
    if Text.isBlankText config.clientName then none else some (Text.trimmed config.clientName) := by
  have twice : (config.target a).clientName =
      trimmedUnlessBlank (trimmedUnlessBlank (some config.clientName)) := by
    simp only [target, Target.build, options]
  rw [twice, trimmedUnlessBlank_idem, trimmedUnlessBlank_some]

theorem target_databaseIndex_eq (config : Config) (a : Address) :
    (config.target a).databaseIndex = if 0 < config.database then config.database else 0 := by
  have index := config.target_databaseIndex a
  split
  · rename_i selected
    have chosen := Int64.le_of_lt selected
    simp only [target, Target.databaseIndex, Target.build, options, chosen, if_true,
      Option.filter_some, decide_true, Option.getD_some]
  · rename_i unselected
    exact Classical.not_not.1 (mt index.1 unselected)

/-- The plan for the target of a configuration asks for what the configuration does. -/
theorem plan_greetings (config : Config) (a : Address) :
    let plan := SetupPlan.ofTarget (config.target a)
    plan.firstPart ++ plan.secondPart = config.greetings := by
  have password : ((unlessBlank config.password).map Greeting.auth).toList =
      match config.password with
      | some password => if Text.isBlankText password then [] else [.auth password]
      | none => [] := by
    cases config.password with
    | none => rfl
    | some password => cases blank : Text.isBlankText password <;> simp [unlessBlank, blank]
  have name : ((if Text.isBlankText config.clientName then none
        else some (Text.trimmed config.clientName)).map Greeting.setName).toList =
      if Text.isBlankText config.clientName then []
        else [.setName (Text.trimmed config.clientName)] := by
    split <;> rfl
  have database : (if (config.target a).databaseIndex ≠ 0
        then [Greeting.select (config.target a).databaseIndex] else []) =
      if 0 < config.database then [.select config.database] else [] := by
    have index := config.target_databaseIndex a
    rw [target_databaseIndex_eq] at index ⊢
    simp only [index]
    split <;> rfl
  simp only [SetupPlan.firstPart, SetupPlan.secondPart, SetupPlan.ofTarget, target_password,
    target_clientName, password, name, database, greetings]

end Config

/-! ## The first part -/

namespace SetupPlan

variable {p : SetupPlan} {g : Greeting} {sent : List Greeting}

def Rejects (respond : SetupCommand → Response) (command : SetupCommand) : Prop :=
  ∃ e, (respond command).reaction = .reply (.error e)

def Complains (respond : SetupCommand → Response) : Prop :=
  ∃ e, isArityComplaint e = true ∧ (respond .auth).reaction = .reply (.error e)

theorem judgePassword_taken {respond : SetupCommand → Response}
    (taken : p.password.isSome → (respond .auth).reaction = .reply .okay) :
    p.judgePassword respond = .accepted := by
  unfold judgePassword
  split
  · rename_i r password reply
    rw [taken (by rw [password]; rfl)] at reply
    cases reply
    rfl
  · rfl

theorem judgePassword_again {respond : SetupCommand → Response}
    (again : p.judgePassword respond = .again) : p.password.isSome ∧ Complains respond := by
  unfold judgePassword at again
  split at again
  · rename_i r password reply
    unfold verdict at again
    split at again
    · cases again
    · rename_i e
      split at again
      · rename_i complaint
        exact ⟨by rw [password]; rfl, e, complaint, reply⟩
      · cases again
    · cases again
  · cases again

theorem runFirst_true {respond : SetupCommand → Response} (h : p.runFirst respond = .ok true) :
    p.judgePassword respond = .accepted ∧ p.judgeDatabase respond = .ok () := by
  unfold runFirst at h
  split at h
  · cases h
  · split at h
    · cases h
    · cases h
    · rename_i accepted
      refine ⟨accepted, ?_⟩
      cases judged : p.judgeDatabase respond with
      | ok u => rfl
      | error failure => simp [judged, Except.map] at h

theorem runFirst_false {respond : SetupCommand → Response} (h : p.runFirst respond = .ok false) :
    p.judgePassword respond = .again := by
  unfold runFirst at h
  split at h
  · cases h
  · split at h
    · cases h
    · assumption
    · cases judged : p.judgeDatabase respond <;> simp [judged, Except.map] at h

/-- One run of the first part does not go well if the server rejects the password or the database. -/
theorem runFirst_rejected {respond : SetupCommand → Response} (asked : g ∈ p.firstPart)
    (tells : g ≠ .setInfo) (rejected : Rejects respond g.command) :
    p.runFirst respond ≠ .ok true := by
  intro well
  obtain ⟨accepted, selected⟩ := runFirst_true well
  obtain ⟨e, reply⟩ := rejected
  simp only [firstPart, List.mem_append, Option.mem_toList, Option.map_eq_some_iff] at asked
  rcases asked with (⟨password, present, rfl⟩ | asked) | asked
  · rw [Greeting.command] at reply
    simp only [judgePassword, present, reply, verdict] at accepted
    split at accepted <;> cases accepted
  · split at asked
    · rename_i index
      rw [List.mem_singleton.1 asked, Greeting.command] at reply
      simp [judgeDatabase, index, reply, Reply.firstError?] at selected
    · cases asked
  · simp only [List.mem_cons, List.not_mem_nil, or_false, or_self] at asked
    exact tells asked

/-- A password that is taken at once is not sent twice. -/
theorem runFirstPart_taken {respond : (run : Nat) → SetupCommand → Response}
    (ok : p.runFirstPart respond = .ok sent)
    (taken : p.password.isSome → (respond 0 .auth).reaction = .reply .okay) :
    sent = p.firstPart := by
  unfold runFirstPart at ok
  split at ok
  · cases ok
  · cases ok
    rfl
  · rename_i again
    have accepted := judgePassword_taken taken
    rw [runFirst_false again] at accepted
    cases accepted

/-- The first part fails if the server rejects the password or the database each time, unless it
complains each time about the number of arguments. -/
theorem runFirstPart_rejected {respond : (run : Nat) → SetupCommand → Response}
    (asked : g ∈ p.firstPart) (tells : g ≠ .setInfo)
    (rejected : ∀ run, Rejects (respond run) g.command)
    (heeded : ¬(p.password.isSome ∧ Complains (respond 0) ∧ Complains (respond 1))) :
    ∃ failure, p.runFirstPart respond = .error failure := by
  unfold runFirstPart
  split
  · rename_i failure failed
    exact ⟨failure, rfl⟩
  · rename_i well
    exact absurd well (runFirst_rejected asked tells (rejected 0))
  · rename_i again
    obtain ⟨present, first⟩ := judgePassword_again (runFirst_false again)
    cases second : p.runFirst (respond 1) with
    | error failure => exact ⟨failure, rfl⟩
    | ok well =>
      cases well with
      | true => exact absurd second (runFirst_rejected asked tells (rejected 1))
      | false =>
        exact absurd ⟨present, first, (judgePassword_again (runFirst_false second)).2⟩ heeded

/-- A run of the first part that meets the complaint comes to nothing but that. -/
theorem runFirst_complaint {respond : SetupCommand → Response} (present : p.password.isSome)
    (stays : hangsUp (p.firstResponses respond) = false) (complains : Complains respond) :
    p.runFirst respond = .ok false := by
  obtain ⟨password, eq⟩ := Option.isSome_iff_exists.1 present
  obtain ⟨e, complaint, reply⟩ := complains
  simp only [runFirst, stays, Bool.false_eq_true, if_false, judgePassword, eq, reply, verdict,
    complaint, if_true]

/-- A second complaint is let pass, whatever the server says about the database. -/
theorem runFirstPart_complaints {respond : (run : Nat) → SetupCommand → Response}
    (present : p.password.isSome)
    (stays : ∀ run, hangsUp (p.firstResponses (respond run)) = false)
    (complains : ∀ run, Complains (respond run)) :
    p.runFirstPart respond = .ok (p.firstPart ++ p.firstPart) := by
  simp only [runFirstPart, runFirst_complaint present (stays _) (complains _)]
  rfl

/-! ## The second part -/

theorem runSecondPart_rejected {response : Response} (asked : g ∈ p.secondPart)
    (rejected : ∃ e, response.reaction = .reply (.error e)) (sent : List Greeting) :
    ∃ failure, p.runSecondPart response sent = .error failure := by
  have settled : ({ setup := sent, readTimeout := p.timeout } : Connection).Settled := fun _ => rfl
  obtain ⟨e, reply⟩ := rejected
  unfold runSecondPart
  split
  · rename_i unnamed
    simp [secondPart, unnamed] at asked
  · dsimp only
    split
    · rename_i failure failed
      exact ⟨failure, rfl⟩
    · rename_i r ok
      have own := (Connection.exchange_ok settled ok).1
      rw [reply] at own
      cases own
      exact ⟨e.failure, rfl⟩

theorem secondPart_command (asked : g ∈ p.secondPart) : g.command = .setName := by
  simp only [secondPart, Option.mem_toList, Option.map_eq_some_iff] at asked
  obtain ⟨name, -, rfl⟩ := asked
  rfl

theorem firstPart_command (asked : g ∈ p.firstPart) : g.command ≠ .setName := by
  simp only [firstPart, List.mem_append, Option.mem_toList, Option.map_eq_some_iff] at asked
  rcases asked with (⟨password, -, rfl⟩ | asked) | asked
  · simp [Greeting.command]
  · split at asked
    · simp [List.mem_singleton.1 asked, Greeting.command]
    · cases asked
  · simp only [List.mem_cons, List.not_mem_nil, or_false, or_self] at asked
    simp [asked, Greeting.command]

end SetupPlan

/-! ## Opening a connection -/

/-- The server accepts the password, if there is one to be given, when the connection with this
number gives it for the first time. -/
def Network.TakesPassword (net : Network) (config : Config) (serial : Nat) : Prop :=
  ∀ password, .auth password ∈ config.greetings →
    (net.respond serial 0 .auth).reaction = .reply .okay

/-- The server complains about the number of arguments, both times that the connection with this
number gives its password. -/
def Network.Complains (net : Network) (config : Config) (serial : Nat) : Prop :=
  (∃ password, .auth password ∈ config.greetings) ∧
    SetupPlan.Complains (net.respond serial 0) ∧ SetupPlan.Complains (net.respond serial 1)

/-- A network in which every address answers, and agrees to everything but one command. -/
def Network.rejecting (command : SetupCommand) (e : ErrorReply) : Network where
  dial _ := .accepted
  respond _ _ sent := ⟨.reply (if sent = command then .error e else .okay), 0⟩

namespace Config

variable {config : Config} {net : Network} {a : Address} {d : Connection} {g : Greeting} {n : Nat}

theorem auth_greetings (config : Config) (a : Address) (password : String) :
    .auth password ∈ config.greetings ↔
      (SetupPlan.ofTarget (config.target a)).password = some password := by
  rw [← config.plan_greetings a, List.mem_append, SetupPlan.firstPart, SetupPlan.secondPart]
  simp

/-- If the server takes the password at once, a new connection was told exactly what the
configuration asks for. -/
theorem opened_setup (opened : (Factory.standalone (config.target a)).opener net n = .ok d)
    (taken : net.TakesPassword config n) : d.setup = config.greetings := by
  obtain ⟨sent, first, second⟩ := Factory.opener_ok opened
  have once : sent = (SetupPlan.ofTarget (config.target a)).firstPart := by
    refine SetupPlan.runFirstPart_taken first fun present => ?_
    obtain ⟨password, eq⟩ := Option.isSome_iff_exists.1 present
    exact taken password ((config.auth_greetings a password).2 eq)
  rw [(SetupPlan.runSecondPart_clean second).2, once]
  exact config.plan_greetings a

/-- No connection is opened to a server that rejects a greeting each time. -/
theorem opener_rejected (asked : g ∈ config.greetings) (tells : g ≠ .setInfo)
    (rejected : ∀ run, SetupPlan.Rejects (net.respond n run) g.command)
    (heeded : (∃ name, g = .setName name) ∨ ¬net.Complains config n) (a : Address) :
    ∃ failure, (Factory.standalone (config.target a)).opener net n = .error failure := by
  rw [← config.plan_greetings a, List.mem_append] at asked
  simp only [Factory.opener, openStandalone]
  split
  · exact ⟨_, rfl⟩
  · split
    · exact ⟨_, rfl⟩
    · rename_i sent passed
      -- a greeting of the first part ends the attempt there, the name only in the second part
      rcases asked with first | second
      · have complained : ¬((SetupPlan.ofTarget (config.target a)).password.isSome ∧
            SetupPlan.Complains (net.respond n 0) ∧ SetupPlan.Complains (net.respond n 1)) := by
          rintro ⟨present, complaints⟩
          rcases heeded with ⟨name, rfl⟩ | heeded
          · exact SetupPlan.firstPart_command first rfl
          · obtain ⟨password, eq⟩ := Option.isSome_iff_exists.1 present
            exact heeded ⟨⟨password, (config.auth_greetings a password).2 eq⟩, complaints⟩
        obtain ⟨failure, failed⟩ :=
          SetupPlan.runFirstPart_rejected first tells rejected complained
        rw [failed] at passed
        cases passed
      · have named := rejected 0
        rw [SetupPlan.secondPart_command second] at named
        exact SetupPlan.runSecondPart_rejected second named sent

end Config

/-! ## Remarks about the software -/

/-- The networks differ in nothing but the replies to remarks about the software. -/
structure Network.SameButInfo (net net' : Network) : Prop where
  dial : net'.dial = net.dial
  respond : ∀ n run command, command ≠ .setInfo →
    net'.respond n run command = net.respond n run command
  reply : ∀ n run, ∃ r, (net.respond n run .setInfo).reaction = .reply r
  reply' : ∀ n run, ∃ r, (net'.respond n run .setInfo).reaction = .reply r

namespace SetupPlan

variable {respond respond' : SetupCommand → Response}

/-- A run of the first part sees nothing of the replies to remarks about the software. -/
theorem runFirst_congr
    (same : ∀ command, command ≠ .setInfo → respond' command = respond command)
    (reply : ∃ r, (respond .setInfo).reaction = .reply r)
    (reply' : ∃ r, (respond' .setInfo).reaction = .reply r) (p : SetupPlan) :
    p.runFirst respond' = p.runFirst respond := by
  have stays : hangsUp (p.firstResponses respond') = hangsUp (p.firstResponses respond) := by
    simp only [hangsUp, firstResponses, List.any_map]
    refine List.any_congr rfl fun g => ?_
    simp only [Function.comp_apply]
    -- a remark need only be answered: a server that hangs up instead is noticed
    by_cases info : g.command = .setInfo
    · obtain ⟨r, eq⟩ := reply
      obtain ⟨r', eq'⟩ := reply'
      rw [info, eq, eq']
    · rw [same g.command info]
  simp only [runFirst, stays, judgePassword, judgeDatabase, same .auth (by decide),
    same .select (by decide)]

end SetupPlan

/-- Connections are opened as if the remarks about the software had not been answered at all. -/
theorem Factory.opener_congr {net net' : Network} (same : net.SameButInfo net') (f : Factory) :
    f.opener net' = f.opener net := by
  have first (p : SetupPlan) (n : Nat) :
      p.runFirstPart (net'.respond n) = p.runFirstPart (net.respond n) := by
    have run (k : Nat) := SetupPlan.runFirst_congr (same.respond n k) (same.reply n k)
      (same.reply' n k) p
    simp only [SetupPlan.runFirstPart, run]
  have obstacle (t : Target) : net'.obstacle? t = net.obstacle? t := by
    simp only [Network.obstacle?, same.dial]
  funext n
  cases f with
  | standalone target =>
    simp only [opener, openStandalone, obstacle, first, same.respond n 0 .setName (by decide)]
  | cluster seeds =>
    simp only [opener, openCluster, obstacle, first, same.respond n 0 .setName (by decide),
      same.respond n 0 .ping (by decide)]

namespace Connector

variable {net net' : Network} {config : Config} {f : Factory}

/-- All that connecting learns of a network is how its attempts to open a connection end. -/
theorem connect_congr (same : ∀ f : Factory, f.opener net' = f.opener net) (config : Config) :
    connect net' config = connect net config := by
  simp only [connect, connectTo, openBackend, same]

/-- What is opened first cannot be opened if already the first attempt fails. -/
theorem openBackend_failed {failure : Failure} (failed : f.opener net 0 = .error failure) :
    ∃ e, (openBackend net config f).value = .error e := by
  unfold openBackend
  dsimp only
  split
  · obtain ⟨k, count⟩ : ∃ k, max 1 config.pool.minIdle.toNat = k + 1 :=
      ⟨max 1 config.pool.minIdle.toNat - 1, by omega⟩
    simp only [openPool, Pool.start, count, Pool.openReady, failed]
    exact ⟨_, rfl⟩
  · split <;> simp only [openDirect, failed] <;> exact ⟨_, rfl⟩

end Connector

end RedisClient
