import RedisClient.Proofs.Connector.Alike
import RedisClient.Proofs.Connector.Connecting

/-!
# What a password makes of a connector

The password of a configuration goes into its targets, from there into the plan of every new
connection, and is told to the server; nothing else depends on it. So two configurations that have a
password each, and are the same otherwise, connect alike: with the same events, and to the same
error or to connectors that are alike (`connect_alike`).
-/

namespace RedisClient

variable {p p' : String}

/-! ## Setting up a connection -/

namespace SetupPlan

def withPassword (plan : SetupPlan) (password : String) : SetupPlan :=
  { plan with password := some password }

theorem firstPart_alike (plan : SetupPlan) : List.Forall₂ (Greeting.Alike p p')
    (plan.withPassword p).firstPart (plan.withPassword p').firstPart := by
  have database : List.Forall₂ (Greeting.Alike p p')
      (if plan.database ≠ 0 then [.select plan.database] else [])
      (if plan.database ≠ 0 then [.select plan.database] else []) := by
    split
    · exact .cons (.select _) .nil
    · exact .nil
  exact .cons .auth (List.rel_append database (.cons .setInfo (.cons .setInfo .nil)))

theorem secondPart_alike (plan : SetupPlan) :
    List.Forall₂ (Greeting.Alike p p') plan.secondPart plan.secondPart := by
  unfold secondPart
  cases plan.clientName with
  | none => exact .nil
  | some name => exact .cons (.setName name) .nil

/-- What the server says to a password decides, not the password. -/
theorem runFirst_withPassword (plan : SetupPlan) (p p' : String)
    (respond : SetupCommand → Response) :
    (plan.withPassword p').runFirst respond = (plan.withPassword p).runFirst respond := by
  have responses : (plan.withPassword p').firstResponses respond =
    (plan.withPassword p).firstResponses respond := rfl
  have judged : (plan.withPassword p').judgePassword respond =
      (plan.withPassword p).judgePassword respond := by
    simp only [judgePassword, withPassword]
    cases (respond .auth).reaction <;> rfl
  simp only [runFirst, responses, judged]
  rfl

theorem runFirstPart_alike (plan : SetupPlan) (respond : (run : Nat) → SetupCommand → Response) :
    Matched Eq (List.Forall₂ (Greeting.Alike p p'))
      ((plan.withPassword p).runFirstPart respond) ((plan.withPassword p').runFirstPart respond) := by
  have first : List.Forall₂ (Greeting.Alike p p') (plan.withPassword p).firstPart
    (plan.withPassword p').firstPart := plan.firstPart_alike
  unfold runFirstPart
  simp only [runFirst_withPassword plan p p']
  split
  · exact .error rfl
  · exact .ok first
  · cases (plan.withPassword p).runFirst (respond 1) with
    | error failure => exact .error rfl
    | ok well => exact .ok (List.rel_append first first)

theorem runSecondPart_alike (plan : SetupPlan) (response : Response) {sent sent' : List Greeting}
    (alike : List.Forall₂ (Greeting.Alike p p') sent sent') :
    Matched Eq (Connection.Alike p p') ((plan.withPassword p).runSecondPart response sent)
      ((plan.withPassword p').runSecondPart response sent') := by
  have told := Connection.exchange_withSetup { setup := sent, readTimeout := plan.timeout } sent' 0
    response
  unfold runSecondPart
  cases named : plan.clientName with
  | none =>
    simp only [withPassword, named]
    exact .ok ⟨alike, rfl⟩
  | some name =>
    simp only [withPassword, named, told]
    split
    · exact .error rfl
    · split
      · exact .error rfl
      · exact .ok ⟨List.rel_append alike (secondPart_alike _), rfl⟩

end SetupPlan

/-! ## Targets -/

namespace Target

def withPassword (t : Target) (password : String) : Target := { t with password := some password }

theorem build_withPassword (fine : Text.isBlankText p = false) (a : Address) (options : Options) :
    build a (unlessBlank (some p)) options = (build a none options).withPassword p := by
  have kept : unlessBlank (some p) = some p := by simp [unlessBlank, fine]
  simp only [build, kept, withPassword]

end Target

namespace Factory

def withPassword (f : Factory) (password : String) : Factory :=
  match f with
  | standalone target => .standalone (target.withPassword password)
  | cluster seeds =>
    .cluster ⟨seeds.first.withPassword password, seeds.others.map (·.withPassword password)⟩

theorem opener_alike (net : Network) (f : Factory) :
    Pool.OpenersAlike p p' ((f.withPassword p).opener net) ((f.withPassword p').opener net) := by
  intro n
  cases f with
  | standalone target =>
    have obstacle (password : String) :
        net.obstacle? (target.withPassword password) = net.obstacle? target := rfl
    have plan (password : String) : SetupPlan.ofTarget (target.withPassword password) =
      (SetupPlan.ofTarget target).withPassword password := rfl
    simp only [withPassword, opener, openStandalone, obstacle, plan]
    split
    · exact .error rfl
    · rcases (@SetupPlan.runFirstPart_alike p p' (.ofTarget target) (net.respond n)).cases with
        ⟨sent, sent', ok, ok', alike⟩ | ⟨e, _, failed, failed', rfl⟩
      · simp only [ok, ok']
        exact SetupPlan.runSecondPart_alike _ _ alike
      · simp only [failed, failed']
        exact .error rfl
  | cluster seeds =>
    have obstacle (password : String) (t : Target) :
        net.obstacle? (t.withPassword password) = net.obstacle? t := rfl
    have plan (password : String) (others : List Target) :
        Seeds.plan ⟨seeds.first.withPassword password, others⟩ =
          seeds.plan.withPassword password := rfl
    simp only [withPassword, opener, openCluster, plan, Seeds.targets, List.any_cons, List.any_map,
      Function.comp_def, obstacle]
    generalize (_ && answersPing _) = usable
    rcases (@SetupPlan.runFirstPart_alike p p' seeds.plan (net.respond n)).cases with
      ⟨sent, sent', ok, ok', alike⟩ | ⟨e, _, failed, failed', rfl⟩
    · simp only [ok, ok']
      cases usable with
      | true => exact SetupPlan.runSecondPart_alike _ _ alike
      | false => exact .error rfl
    · simp only [failed, failed']
      exact .error rfl

theorem disagreement?_withPassword (p : String) {first node : Target}
    (bare : first.password = none) :
    Seeds.disagreement? (first.withPassword p) (node.withPassword p) =
      Seeds.disagreement? first node := by
  have endpoint (t : Target) : (t.withPassword p).endpoint = t.endpoint := rfl
  simp only [Seeds.disagreement?, endpoint, bare]
  simp [Target.withPassword]

/-- Targets without a password, that are given one, make the same factory but for it. -/
theorem gather_withPassword (cluster : Bool) {targets : List Target}
    (bare : ∀ t ∈ targets, t.password = none) (p : String) :
    gather cluster (targets.map (·.withPassword p)) =
      (gather cluster targets).map (·.withPassword p) := by
  cases targets with
  | nil => cases cluster <;> rfl
  | cons first others =>
    cases cluster with
    | false => rfl
    | true =>
      have index : (first.withPassword p).databaseIndex = first.databaseIndex := rfl
      have node : Seeds.disagreement? (first.withPassword p) ∘ (·.withPassword p) =
          Seeds.disagreement? first :=
        funext fun t => disagreement?_withPassword p (bare first (List.mem_cons_self ..))
      simp only [gather, if_true, List.map_cons, Seeds.gather, index, List.findSome?_map, node]
      split
      · rfl
      · split <;> rfl

end Factory

/-! ## Connecting -/

namespace Connector

/-- Two connectors have pools and openers that are alike, and are the same in all else. -/
structure Alike (p p' : String) (c c' : Connector) : Prop where
  mode : c'.mode = c.mode
  pool : Pool.Alike p p' c.pool c'.pool
  opens : Pool.OpenersAlike p p' c.opener c'.opener
  readTimeout : c'.readTimeout = c.readTimeout
  maxWait : c'.maxWait = c.maxWait

variable {net : Network} {config : Config}

theorem targets_withPassword (bare : config.password = none) (fine : Text.isBlankText p = false)
    (addresses : List Address) : targets (config.withPassword p) addresses =
      (targets config addresses).map (·.withPassword p) := by
  have none : config.usablePassword = none := by rw [Config.usablePassword, bare]; rfl
  simp only [targets, none, List.map_map, Function.comp_def]
  refine List.map_congr_left fun a _ => ?_
  exact Target.build_withPassword fine a config.options

theorem targets_bare (bare : config.password = none) (addresses : List Address) :
    ∀ t ∈ targets config addresses, t.password = none := by
  intro t mem
  obtain ⟨a, -, rfl⟩ := List.mem_map.1 mem
  simp only [Target.build, Config.usablePassword, bare]
  rfl

theorem openDirect_alike {opener opener' : Opener} (opens : Pool.OpenersAlike p p' opener opener')
    (context : String) (event : Event) : Matched Eq (Pool.Alike p p')
      (openDirect opener context event).value (openDirect opener' context event).value := by
  simp only [openDirect]
  rcases (opens 0).cases with ⟨c, c', ok, ok', alike⟩ | ⟨e, _, failed, failed', rfl⟩
  · simp only [ok, ok']
    exact .ok ⟨rfl, .cons alike .nil, rfl, rfl⟩
  · simp only [failed, failed']
    exact .error rfl

theorem openPool_alike {opener opener' : Opener} (opens : Pool.OpenersAlike p p' opener opener')
    (limits : PoolConfig) : Matched Eq (Pool.Alike p p')
      (openPool opener limits).value (openPool opener' limits).value := by
  simp only [openPool]
  rcases (Pool.start_alike opens limits.maxSize.toNat limits.minIdle.toNat).cases with
    ⟨q, q', ok, ok', alike⟩ | ⟨e, _, failed, failed', rfl⟩
  · rw [ok, ok']
    exact .ok alike
  · rw [failed, failed']
    exact .error rfl

/-- What is opened first is alike, and is announced in the same words. -/
theorem openBackend_alike (net : Network) (config : Config) (f : Factory) :
    let opened := openBackend net (config.withPassword p) (f.withPassword p)
    let opened' := openBackend net (config.withPassword p') (f.withPassword p')
    opened'.events = opened.events ∧
      Matched Eq (Pool.Alike p p') opened.value opened'.value := by
  have opens := @Factory.opener_alike p p' net f
  cases pooled : config.connectionPooling with
  | true =>
    simp only [openBackend, Config.withPassword, pooled, if_true]
    exact ⟨rfl, openPool_alike opens config.pool⟩
  | false =>
    simp only [openBackend, Config.withPassword, pooled, Bool.false_eq_true, if_false]
    cases f with
    | standalone target => exact ⟨rfl, openDirect_alike opens _ _⟩
    | cluster seeds =>
      have count : (Factory.withPassword (.cluster seeds) p').openEvent =
          (Factory.withPassword (.cluster seeds) p).openEvent := by
        simp [Factory.withPassword, Factory.openEvent, Seeds.targets]
      exact ⟨congrArg (fun e => [e]) count, count ▸ openDirect_alike opens _ _⟩

/-- Configurations that are the same but for their passwords connect alike. -/
theorem connect_alike (net : Network) (bare : config.password = none)
    (fine : Text.isBlankText p = false) (fine' : Text.isBlankText p' = false) :
    let connected := connect net (config.withPassword p)
    let connected' := connect net (config.withPassword p')
    connected'.events = connected.events ∧
      Matched Eq (Alike p p') connected.value connected'.value := by
  have validate (password : String) : (config.withPassword password).validate = config.validate :=
    rfl
  have built (password : String) (addresses : List Address) :
    targetEvents (config.withPassword password) addresses = targetEvents config addresses := rfl
  have supported (password : String) (targets : List Target) :
      unsupported? (targets.map (·.withPassword password)) = unsupported? targets := by
    simp only [unsupported?, List.findSome?_map]
    rfl
  have timeout (password : String) (targets : List Target) :
      (targets.map (·.withPassword password)).head?.bind Target.effectiveTimeout =
        targets.head?.bind Target.effectiveTimeout := by
    cases targets <;> rfl
  simp only [connect, validate, targets_withPassword bare fine, targets_withPassword bare fine',
    built, supported]
  cases config.validate with
  | error fault => exact ⟨rfl, .error rfl⟩
  | ok addresses =>
    dsimp only
    cases unsupported? (targets config addresses) with
    | some e => exact ⟨rfl, .error rfl⟩
    | none =>
      have cluster (password : String) :
        (config.withPassword password).isClusterConnection = config.isClusterConnection := rfl
      simp only [connectTo, cluster, timeout,
        Factory.gather_withPassword _ (targets_bare bare addresses)]
      cases Factory.gather config.isClusterConnection (targets config addresses) with
      | error e => exact ⟨rfl, .error rfl⟩
      | ok f =>
        obtain ⟨events, value⟩ := @openBackend_alike p p' net config f
        simp only [Except.map, events]
        rcases value.cases with ⟨q, q', ok, ok', alike⟩ | ⟨e, _, failed, failed', rfl⟩
        · simp only [ok, ok']
          exact ⟨rfl, .ok ⟨rfl, alike, Factory.opener_alike net f, rfl, rfl⟩⟩
        · simp only [failed, failed']
          exact ⟨rfl, .error rfl⟩

end Connector

end RedisClient
