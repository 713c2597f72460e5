import RedisClient.Proofs.Connector.Greetings
import RedisClient.Proofs.Session.Order

/-!
# How the connections of a session were set up

Every connection of a session was opened by its connector and has been told nothing since
(`run_opened`), and what is reported about set-ups is about connections that calls got
(`run_setups`). With the greetings of the configuration this settles how all of them were set up,
whatever was done before (`setups_uniform`).
-/

namespace RedisClient

/-- The connection was opened by the attempt with this number, and was told nothing more. -/
def Connector.OpenedAs (connector : Connector) (n : Nat) (c : Connection) : Prop :=
  ∃ d, connector.opener n = .ok d ∧ c.setup = d.setup

namespace Session

variable {s s' : Session} {c d : Connection} {connector : Connector} {slot : Option Nat}
  {net : Network} {config : Config} {f : Factory} {t : Step} {setup : List (List String)}

/-! ## Connections -/

/-- A connection that is idle or held, or that a call would get. -/
def Offers (s : Session) (c : Connection) : Prop :=
  c ∈ s.connector.pool.idle ∨ (∃ n, (n, c) ∈ s.held) ∨ ∃ slot s', s.handle slot = .ok (c, s')

/-- What all connections have in common, those have that a call can get. -/
theorem offers_every {P : Connection → Prop}
    (new : ∀ {d}, Pool.New connector.opener d → P d) (h : Every connector P none s)
    (offered : s.Offers c) : P c := by
  rcases offered with idle | ⟨n, held⟩ | ⟨slot, s', got⟩
  · exact h.idle c idle
  · exact h.held n c held
  · exact (handle_every new h got).1

/-- At any time of a session its connections are as they were opened, as far as the set-up goes. -/
theorem run_opened (connected : Connector.Connected net config connector f) (ts : List Step)
    (offered : ((start connector).run ts).2.Offers c) : ∃ n, connector.OpenedAs n c := by
  let P (d : Connection) : Prop :=
    d.readTimeout = connector.readTimeout ∧ ∃ n, connector.OpenedAs n d
  have new {d : Connection} (opened : Pool.New connector.opener d) : P d := by
    obtain ⟨n, eq⟩ := opened
    exact ⟨connected.new_readTimeout ⟨n, eq⟩, n, d, eq, rfl⟩
  have invariant : Invariant (Every connector P) := by
    refine every_invariant (fun _ => new) fun now call response ⟨usual, n, d, eq, told⟩ => ?_
    exact ⟨Connector.runOn_readTimeout usual, n, d, eq,
      (Connector.runOn_setup usual).trans told⟩
  have every := (invariant.run ts (start_slotted connector) (start_every connected new)).1
  exact (offers_every new every offered).2

/-! ## Reported set-ups -/

theorem mem_addSetup {new : List (List String)} {setups : List (List (List String))}
    (h : setup ∈ addSetup new setups) : setup = new ∨ setup ∈ setups := by
  induction setups with
  | nil => exact .inl (List.mem_singleton.1 h)
  | cons first rest ih =>
    unfold addSetup at h
    split at h
    · exact .inr h
    · split at h
      · exact List.mem_cons.1 h
      · rcases List.mem_cons.1 h with rfl | h
        · exact .inr (List.mem_cons_self ..)
        · exact (ih h).imp_right (List.mem_cons_of_mem _)

theorem handle_setups (got : s.handle slot = .ok (c, s')) : s'.setups = s.setups := by
  rcases handle_cases s slot with ⟨n, d, -, -, eq⟩ | ⟨-, d, p, -, eq⟩ | ⟨-, e, p, -, eq⟩ <;>
    rw [eq] at got <;> cases got <;> rfl

theorem releaseAll_setups (s : Session) : s.releaseAll.setups = s.setups := by
  unfold releaseAll
  generalize s.held = held
  induction held generalizing s with
  | nil => rfl
  | cons entry rest ih =>
    rw [List.foldl_cons, ih]
    rfl

/-- A step reports no new set-up but that of the connection it calls on. -/
theorem act_setups (reported : setup ∈ (s.act t).2.setups) : setup ∈ s.setups ∨
    ∃ slot call response c s', t = .call slot call response ∧ s.handle slot = .ok (c, s') ∧
      setup = c.reportedSetup := by
  cases t with
  | call slot call response =>
    rw [act_call] at reported
    cases got : s.handle slot with
    | ok pair =>
      obtain ⟨c, s'⟩ := pair
      rw [← handle_setups got]
      simp only [got, runOn, giveBack] at reported
      split at reported
      · exact .inl reported
      · rcases mem_addSetup reported with rfl | before
        · exact .inr ⟨slot, call, response, c, s', rfl, got, rfl⟩
        · exact .inl before
    | error pair =>
      simp only [got, waited] at reported
      exact .inl reported
  | hold =>
    simp only [act, hold] at reported
    split at reported <;> exact .inl reported
  | release slot =>
    simp only [act, release] at reported
    split at reported <;> exact .inl reported
  | describe => exact .inl reported
  | close response =>
    simp only [act, close, releaseAll_setups] at reported
    exact .inl reported

/-- Every reported set-up is that of a connection which a call got. -/
theorem run_setups {ts : List Step} (reported : setup ∈ (s.run ts).2.setups) : setup ∈ s.setups ∨
    ∃ i c, (s.run (ts.take i)).2.Offers c ∧ setup = c.reportedSetup := by
  induction ts generalizing s with
  | nil => exact .inl reported
  | cons t ts ih =>
    have first (now : setup ∈ (s.step t).2.setups) : setup ∈ s.setups ∨
        ∃ i c, (s.run ((t :: ts).take i)).2.Offers c ∧ setup = c.reportedSetup := by
      rcases act_setups now with before | ⟨slot, call, response, c, s', -, got, eq⟩
      · exact .inl before
      · exact .inr ⟨0, c, .inr (.inr ⟨slot, s', got⟩), eq⟩
    cases closed : (s.step t).2.isClosed with
    | true =>
      rw [run_cons_closed closed] at reported
      exact first reported
    | false =>
      rw [run_cons_open closed] at reported
      rcases ih reported with now | ⟨i, c, offered, eq⟩
      · exact first now
      · refine .inr ⟨i + 1, c, ?_, eq⟩
        rw [List.take_succ_cons, run_cons_open closed]
        exact offered

/-! ## The set-up of all connections -/

/-- In a session with a single server, every connection that a call can get was told what the
configuration asks for and nothing else, if the server took the password at once when it was opened;
what was done in the session before makes no difference. If the server refuses a greeting each time,
be it the password, the database or the name, there is no connector, and the error is one of
initialization unless already the configuration is unusable. But a complaint about the number of
arguments that comes with the password is let pass when it comes a second time, and then nobody asks
about the database either. How the server replies to remarks about the software makes no
difference. -/
theorem setups_uniform (net : Network) (config : Config)
    (single : config.isClusterConnection = false) :
    (∀ connector, (Connector.connect net config).value = .ok connector → ∀ ts,
      let s := ((start connector).run ts).2
      (∀ c, s.Offers c → ∃ n, connector.OpenedAs n c ∧
        (net.TakesPassword config n → c.setup = config.greetings)) ∧
      ((∀ n, net.TakesPassword config n) → ∀ setup ∈ s.setups,
        setup = config.greetings.filterMap Greeting.words?)) ∧
    (∀ g ∈ config.greetings, g ≠ .setInfo →
      (∀ n run, SetupPlan.Rejects (net.respond n run) g.command) →
      (∃ name, g = .setName name) ∨ (∀ n, ¬net.Complains config n) →
      ∃ message, (Connector.connect net config).value =
        .error (if config.Unusable then .configuration message else .initialization message)) ∧
    ∀ net', net.SameButInfo net' →
      Connector.connect net' config = Connector.connect net config := by
  refine ⟨fun connector ok ts => ?_, fun g asked tells rejected heeded => ?_, ?_⟩
  · obtain ⟨f, connected⟩ := Connector.connect_ok ok
    obtain ⟨a, -, rfl⟩ := connected.standalone single
    -- every connection on offer at some point of the run came out of the opener
    have told {i : Nat} {c : Connection}
        (offered : ((start connector).run (ts.take i)).2.Offers c) : ∃ n, connector.OpenedAs n c ∧
          (net.TakesPassword config n → c.setup = config.greetings) := by
      obtain ⟨n, d, opened, eq⟩ := run_opened connected _ offered
      refine ⟨n, ⟨d, opened, eq⟩, fun taken => ?_⟩
      rw [connected.opener] at opened
      exact eq.trans (Config.opened_setup opened taken)
    refine ⟨fun c offered => ?_, fun taken setup reported => ?_⟩
    · exact told (i := ts.length) (by rwa [List.take_length])
    · rcases run_setups reported with none | ⟨i, c, offered, rfl⟩
      · cases none
      · obtain ⟨n, -, greeted⟩ := told offered
        rw [Connection.reportedSetup, greeted (taken n)]
  · by_cases unusable : config.Unusable
    · obtain ⟨message, events, refused, -⟩ := Connector.connect_unusable unusable
      exact ⟨message, by rw [refused, if_pos unusable]⟩
    · obtain ⟨addresses, f, listed, gathered, plain, connects⟩ := Connector.connect_usable unusable
      obtain ⟨a, -, rfl⟩ := Connector.gather_standalone single listed gathered
      obtain ⟨failure, failed⟩ := Config.opener_rejected asked tells (rejected 0)
        (heeded.imp_right fun heeded => heeded 0) a
      obtain ⟨e, unopened⟩ := Connector.openBackend_failed failed
      obtain ⟨message, rfl⟩ := Connector.openBackend_error plain unopened
      refine ⟨message, ?_⟩
      rw [(connects net).1, unopened, if_neg unusable]
      rfl
  · exact fun net' same => Connector.connect_congr (Factory.opener_congr same) config

/-- A connection with everything, and a server that refuses names. -/
theorem setups_uniform_named :
    let config : Config :=
      { host := "cache", password := some " secret", database := 3, clientName := " app\t" }
    (∃ connector, (Connector.connect .obliging config).value = .ok connector ∧
      ∃ c, (start connector).Offers c ∧
        c.setup = [.auth " secret", .select 3, .setInfo, .setInfo, .setName "app"]) ∧
    ∃ message, (Connector.connect (.rejecting .setName ⟨"ERR", none⟩) config).value =
      .error (.initialization message) := by
  dsimp only
  constructor
  · obtain ⟨all, -, -⟩ := setups_uniform .obliging
      { host := "cache", password := some " secret", database := 3, clientName := " app\t" } rfl
    refine ⟨_, rfl, _, .inr (.inr ⟨none, _, rfl⟩), ?_⟩
    obtain ⟨n, -, greeted⟩ := (all _ rfl []).1 _ (.inr (.inr ⟨none, _, rfl⟩))
    exact (greeted fun _ _ => rfl).trans (by decide +kernel)
  · obtain ⟨-, rejected, -⟩ := setups_uniform (.rejecting .setName ⟨"ERR", none⟩)
      { host := "cache", password := some " secret", database := 3, clientName := " app\t" } rfl
    obtain ⟨message, failed⟩ := rejected (.setName "app") (by decide +kernel) (by decide)
      (fun _ _ => ⟨_, rfl⟩) (.inl ⟨_, rfl⟩)
    exact ⟨message, by rw [failed, if_neg (by decide +kernel)]⟩

/-- A server that complains each time about the number of arguments has not taken the password, but
connecting succeeds. -/
theorem complaints_let_pass :
    let net := Network.rejecting .auth
      ⟨"ERR", some "wrong number of arguments for 'auth' command"⟩
    let config : Config := { host := "cache", password := some "secret" }
    .auth "secret" ∈ config.greetings ∧
      (∀ n run, SetupPlan.Rejects (net.respond n run) .auth) ∧
      ∃ connector, (Connector.connect net config).value = .ok connector := by
  intro net config
  have complains (n run : Nat) : SetupPlan.Complains (net.respond n run) := by
    refine ⟨_, ?_, rfl⟩
    simp only [SetupPlan.isArityComplaint, Option.getD_some, String.contains_string_iff]
    exact List.infix_rfl
  refine ⟨by decide +kernel, fun n run => ⟨_, rfl⟩, ?_⟩
  have accepting : Connector.Accepting net config := by
    intro a _ n
    have heard := SetupPlan.runFirstPart_complaints (p := .ofTarget (config.target a)) rfl
      (fun _ => rfl) (complains n)
    have reached : net.obstacle? (config.target a) = none := by
      rw [Network.obstacle?, Config.target_endpoint rfl]
      rfl
    simp only [Factory.opener, openStandalone, reached, heard]
    exact ⟨_, rfl⟩
  obtain ⟨connector, ok, -⟩ := Connector.connect_accepted (by decide +kernel) rfl accepting
  exact ⟨connector, ok⟩

end Session

end RedisClient
