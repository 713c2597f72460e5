import RedisClient.Proofs.Address.Grammar
import RedisClient.Proofs.Connection.Hearing
import RedisClient.Proofs.Connector.Connected
import RedisClient.Proofs.Connector.Gathering
import RedisClient.Proofs.Reply.Reading

/-!
# How connecting can go

A configuration is `Unusable` for one of five reasons, none of which depends on the network: then
connecting fails with a configuration error before anything is opened (`connect_unusable`).
Otherwise connecting comes to what opening the first connections comes to (`connect_usable`). The
failures of that are failures of the network or answers of the server, never of the settings
(`Factory.opener_error`), so that it gives a connector or an initialization error
(`connect_classified`).
-/

namespace RedisClient

namespace Config

variable {config : Config} {addresses : List Address} {fault : ConfigFault}

/-- Why a configuration cannot be used, whatever there is on the network. -/
inductive Unusable (config : Config) : Prop
  | pool (pooled : config.connectionPooling = true) (limits : config.pool.Unusable)
  | hosts (fault : Address.Fault) (unread : Address.parseList config.host = .error fault)
  | severalHosts (addresses : List Address) (single : config.isClusterConnection = false)
      (read : Address.parseList config.host = .ok addresses) (several : 2 ≤ addresses.length)
  | ssl (encrypted : config.ssl = true)
  | database (cluster : config.isClusterConnection = true) (selected : 0 < config.database)

theorem validate_ok (h : config.validate = .ok addresses) :
    (config.connectionPooling = true → ¬config.pool.Unusable) ∧
      config.addresses = .ok addresses := by
  unfold validate at h
  split at h
  · cases h
  · rename_i limits
    exact ⟨fun pooled => PoolConfig.validate_eq_ok.1 (by simpa [pooled] using limits), h⟩

theorem addresses_ok (h : config.addresses = .ok addresses) :
    Address.parseList config.host = .ok addresses ∧
      (config.isClusterConnection = false → addresses.length ≤ 1) := by
  unfold Config.addresses at h
  split at h
  · cases h
  · rename_i read
    split at h
    · cases h
    · rename_i few
      cases h
      refine ⟨read, fun single => ?_⟩
      simpa [single] using few

theorem unusable_of_validate (h : config.validate = .error fault) : config.Unusable := by
  unfold validate at h
  split at h
  · rename_i limits
    cases pooled : config.connectionPooling with
    | false => simp [pooled] at limits
    | true =>
      refine .pool pooled (Classical.byContradiction fun usable => ?_)
      rw [pooled, if_pos rfl, PoolConfig.validate_eq_ok.2 usable] at limits
      cases limits
  · unfold Config.addresses at h
    split at h
    · rename_i fault unread
      exact .hosts fault unread
    · rename_i addresses read
      split at h
      · rename_i several
        simp only [Bool.and_eq_true, Bool.not_eq_true', decide_eq_true_eq] at several
        exact .severalHosts addresses several.1 read several.2
      · cases h

/-- When limits and hosts are fine, two reasons are left. -/
theorem unusable_iff_of_valid (h : config.validate = .ok addresses) : config.Unusable ↔
    config.ssl = true ∨ (config.isClusterConnection = true ∧ 0 < config.database) := by
  obtain ⟨limits, read⟩ := validate_ok h
  obtain ⟨read, few⟩ := addresses_ok read
  constructor
  · intro unusable
    cases unusable with
    | pool pooled wrong => exact absurd wrong (limits pooled)
    | hosts fault unread =>
      rw [unread] at read
      cases read
    | severalHosts addresses' single read' several =>
      rw [read'] at read
      cases read
      have := few single
      omega
    | ssl encrypted => exact .inl encrypted
    | database cluster selected => exact .inr ⟨cluster, selected⟩
  · rintro (encrypted | ⟨cluster, selected⟩)
    · exact .ssl encrypted
    · exact .database cluster selected

instance (config : Config) : Decidable config.Unusable :=
  match valid : config.validate with
  | .error _ => .isTrue (unusable_of_validate valid)
  | .ok _ => decidable_of_iff _ (unusable_iff_of_valid valid).symm

/-- With a configuration that is usable there can be a handle. -/
theorem handleLimit_pos (usable : ¬config.Unusable) : 0 < config.handleLimit := by
  unfold handleLimit
  split
  · rename_i pooled
    obtain ⟨size, -⟩ := PoolConfig.usable fun limits => usable (.pool pooled limits)
    rwa [UInt32.lt_iff_toNat_lt] at size
  · decide

end Config

/-- What a text begins with, it begins with whatever follows. -/
theorem Text.head?_append {s : String} {c : Char} (h : s.toList.head? = some c) (t : String) :
    (s ++ t).toList.head? = some c := by
  rw [String.toList_append, List.head?_append, h]
  rfl

/-- No complaint about a configuration reads like one about missing hosts. -/
theorem ConfigFault.message_head (fault : ConfigFault) :
    ∃ c, fault.message.toList.head? = some c ∧ c ≠ 'n' := by
  open Text in
  cases fault with
  | poolEmpty => exact ⟨'p', rfl, by decide⟩
  | poolIdleAboveSize minIdle maxSize =>
    refine ⟨'p', ?_, by decide⟩
    exact head?_append (head?_append (head?_append (head?_append rfl _) _) _) _
  | poolWaitZero => exact ⟨'p', rfl, by decide⟩
  | severalHosts => exact ⟨'m', rfl, by decide⟩
  | address fault =>
    cases fault with
    | blankList => exact ⟨'h', rfl, by decide⟩
    | emptyEntry => exact ⟨'e', rfl, by decide⟩
    | unclosedBracket entry => exact ⟨'u', head?_append (head?_append rfl _) _, by decide⟩
    | textAfterBracket entry => exact ⟨'u', head?_append (head?_append rfl _) _, by decide⟩
    | badPort entry => exact ⟨'i', head?_append (head?_append rfl _) _, by decide⟩
    | missingHost entry => exact ⟨'m', head?_append (head?_append rfl _) _, by decide⟩

/-! ## Targets -/

def Config.target (config : Config) (a : Address) : Target :=
  .build a config.usablePassword config.options

namespace Config

variable {config : Config}

theorem target_endpoint (plain : config.ssl = false) (a : Address) :
    (config.target a).endpoint = .tcp a.host a.port := by
  simp [target, Target.endpoint, Target.build, options, plain]

/-- Negative numbers stand for no database, and so does 0. -/
theorem target_databaseIndex (config : Config) (a : Address) :
    (config.target a).databaseIndex ≠ 0 ↔ 0 < config.database := by
  simp only [target, Target.databaseIndex, Target.build, options]
  by_cases selected : 0 ≤ config.database
  · simp only [selected, if_true, Option.filter_some, decide_true, Option.getD_some]
    constructor
    · intro ne
      exact Int64.lt_of_le_of_ne selected (Ne.symm ne)
    · intro pos zero
      rw [zero] at pos
      exact absurd pos (by decide)
  · have none : ¬0 < config.database := fun pos => selected (Int64.le_of_lt pos)
    simp [selected, none]

/-- Nodes that have the same configuration agree. -/
theorem target_agrees (config : Config) (a b : Address) :
    Seeds.Agrees (config.target a) (config.target b) where
  password _ := rfl
  transport _ := ⟨rfl, rfl⟩

end Config

namespace Connector

variable {config : Config} {addresses : List Address}

theorem targets_eq (config : Config) (addresses : List Address) :
    targets config addresses = addresses.map config.target := rfl

theorem unsupported?_plain (plain : config.ssl = false) (addresses : List Address) :
    unsupported? (targets config addresses) = none := by
  rw [unsupported?, targets_eq, List.findSome?_eq_none_iff]
  intro t mem
  obtain ⟨a, -, rfl⟩ := List.mem_map.1 mem
  simp only [Target.checkSupported, Config.target_endpoint plain]

theorem unsupported?_encrypted (encrypted : config.ssl = true) (a : Address)
    (rest : List Address) : unsupported? (targets config (a :: rest)) =
      some (.configuration ("ssl requested for " ++ a.text ++
        " but TLS support is not compiled in (enable the \x60tls\x60 feature)")) := by
  have endpoint : (config.target a).endpoint = .tls a.host a.port (!config.verifyPeer) := by
    simp [Config.target, Target.endpoint, Target.build, Config.options, encrypted]
  simp only [unsupported?, targets_eq, List.map_cons, List.findSome?_cons, Target.checkSupported,
    endpoint]
  rfl

/-- The targets of a configuration have a factory, unless a cluster is to use a database. -/
theorem gather_targets (a : Address) (rest : List Address)
    (index : config.isClusterConnection = true → ¬0 < config.database) :
    ∃ f, Factory.gather config.isClusterConnection (targets config (a :: rest)) = .ok f := by
  cases cluster : config.isClusterConnection with
  | false => exact ⟨_, rfl⟩
  | true =>
    have zero : ¬(config.target a).WantsDatabase := by
      rw [Target.wantsDatabase_iff, config.target_databaseIndex]
      exact index cluster
    have gathered : Seeds.gather (targets config (a :: rest)) =
        .ok ⟨config.target a, rest.map config.target⟩ := by
      refine Seeds.gather_eq_ok.2 ⟨rfl, zero, fun node mem => ?_⟩
      obtain ⟨b, -, rfl⟩ := List.mem_map.1 mem
      exact config.target_agrees a b
    simp only [Factory.gather, if_true, gathered]
    exact ⟨_, rfl⟩

theorem gather_database (selected : 0 < config.database) (a : Address) (rest : List Address) :
    Factory.gather true (targets config (a :: rest)) =
      .error (.configuration ("database " ++ toString (config.target a).databaseIndex.toInt ++
        " requested but Redis Cluster only supports database 0")) := by
  have index := (config.target_databaseIndex a).2 selected
  simp only [Factory.gather, if_true, targets_eq, List.map_cons, Seeds.gather]
  rw [if_pos index]
  rfl

end Connector

/-! ## Failures to open a connection -/

/-- A failure that has nothing to do with the settings. -/
def Failure.OfNetwork (failure : Failure) : Prop := failure.kind ≠ .invalidClientConfig

instance (failure : Failure) : Decidable failure.OfNetwork :=
  inferInstanceAs (Decidable (failure.kind ≠ .invalidClientConfig))

namespace SetupPlan

variable {p : SetupPlan} {failure : Failure}

theorem judgePassword_refused {respond : SetupCommand → Response}
    (h : p.judgePassword respond = .refused failure) : failure.OfNetwork := by
  unfold judgePassword at h
  split at h
  · unfold verdict at h
    split at h
    · cases h
    · split at h <;> cases h
      decide
    · cases h
      decide
  · cases h

theorem judgeDatabase_error {respond : SetupCommand → Response}
    (h : p.judgeDatabase respond = .error failure) : failure.OfNetwork := by
  unfold judgeDatabase at h
  split at h
  · cases h
  · split at h
    · cases h
    · split at h <;> cases h
      intro settings
      cases settings

theorem runFirst_error {respond : SetupCommand → Response}
    (h : p.runFirst respond = .error failure) : failure.OfNetwork := by
  unfold runFirst at h
  split at h
  · cases h
    decide
  · split at h
    · rename_i refused
      cases h
      exact judgePassword_refused refused
    · cases h
    · cases judged : p.judgeDatabase respond with
      | ok u => simp [judged, Except.map] at h
      | error f =>
        simp only [judged, Except.map, Except.error.injEq] at h
        exact h ▸ judgeDatabase_error judged

theorem runFirstPart_error {respond : (run : Nat) → SetupCommand → Response}
    (h : p.runFirstPart respond = .error failure) : failure.OfNetwork := by
  unfold runFirstPart at h
  split at h
  · rename_i failed
    cases h
    exact runFirst_error failed
  · cases h
  · cases second : p.runFirst (respond 1) with
    | ok b => simp [second, Except.map] at h
    | error f =>
      simp only [second, Except.map, Except.error.injEq] at h
      exact h ▸ runFirst_error second

theorem runSecondPart_error {response : Response} {sent : List Greeting}
    (h : p.runSecondPart response sent = .error failure) : failure.OfNetwork := by
  unfold runSecondPart at h
  split at h
  · cases h
  · dsimp only at h
    split at h
    · rename_i failed
      cases h
      obtain ⟨cause, rfl⟩ := Connection.exchange_error failed
      intro settings
      cases settings
    · split at h <;> cases h
      exact (ErrorReply.failure_kind _).1

end SetupPlan

namespace Factory

variable {f : Factory} {net : Network} {failure : Failure}

theorem obstacle?_plain {t : Target} (plain : t.ssl = false)
    (h : net.obstacle? t = some failure) : failure.OfNetwork := by
  simp only [Network.obstacle?, Target.endpoint, plain, Bool.false_eq_true, if_false] at h
  cases dial : net.dial t.address <;> simp only [dial, Dial.failure?] at h <;> cases h
  · intro settings
    cases settings
  · intro settings
    cases settings

/-- A connection without encryption cannot fail to be opened because of the settings. -/
theorem opener_error {n : Nat} (plain : f.lead.ssl = false)
    (h : f.opener net n = .error failure) : failure.OfNetwork := by
  cases f with
  | standalone target =>
    simp only [opener, openStandalone] at h
    split at h
    · rename_i obstacle
      cases h
      exact obstacle?_plain plain obstacle
    · split at h
      · rename_i failed
        cases h
        exact SetupPlan.runFirstPart_error failed
      · exact SetupPlan.runSecondPart_error h
  | cluster seeds =>
    simp only [opener, openCluster] at h
    split at h
    · exact SetupPlan.runSecondPart_error h
    · cases h
      decide

end Factory

/-! ## Before anything is opened -/

/-- The event announces that a connection is going to be opened. -/
def Event.opens : Event → Bool
  | .opening _ | .openingCluster _ | .poolCreated .. => true
  | _ => false

namespace Connector

variable {net : Network} {config : Config} {f : Factory} {e : Error} {addresses : List Address}

theorem targetEvents_opens (config : Config) (addresses : List Address) :
    ∀ e ∈ targetEvents config addresses, e.opens = false := by
  intro e mem
  obtain ⟨a, -, built⟩ := List.mem_flatMap.1 mem
  simp only [Target.buildEvents, List.mem_append, List.mem_singleton] at built
  rcases built with useless | rfl
  · split at useless
    · rw [List.mem_singleton.1 useless]
      rfl
    · cases useless
  · rfl

def ofPool (net : Network) (config : Config) (f : Factory) (pool : Pool) : Connector where
  mode := config.mode
  pool
  opener := f.opener net
  readTimeout := f.lead.effectiveTimeout
  maxWait := config.pool.maxWait

/-- With a factory, connecting comes to what opening the first connections comes to. -/
theorem connectTo_ok (net : Network)
    (gathered : Factory.gather config.isClusterConnection (targets config addresses) = .ok f) :
    (connectTo net config (targets config addresses)).value =
      (openBackend net config f).value.map (ofPool net config f) ∧
    ∀ e ∈ (connectTo net config (targets config addresses)).events, e.opens = true →
      e ∈ (openBackend net config f).events := by
  have lead := Factory.gather_lead gathered
  simp only [connectTo, gathered]
  cases (openBackend net config f).value with
  | error e =>
    refine ⟨rfl, fun e mem opens => ?_⟩
    rcases List.mem_cons.1 mem with rfl | mem
    · cases opens
    · exact mem
  | ok pool =>
    refine ⟨?_, fun e mem opens => ?_⟩
    · rw [lead]
      rfl
    · simp only [List.cons_append, List.mem_cons, List.mem_append, List.not_mem_nil, or_false]
        at mem
      rcases mem with rfl | mem | rfl
      · cases opens
      · exact mem
      · cases opens

/-- A configuration that is unusable is refused without any regard to the network. -/
theorem connect_unusable (unusable : config.Unusable) :
    ∃ message events, (∀ net, connect net config = ⟨.error (.configuration message), events⟩) ∧
      (∃ c, message.toList.head? = some c ∧ c ≠ 'n') ∧ ∀ e ∈ events, e.opens = false := by
  cases valid : config.validate with
  | error fault =>
    refine ⟨fault.message, [], fun net => ?_, fault.message_head, by simp⟩
    simp only [connect, valid]
  | ok addresses =>
    have read := (Config.addresses_ok (Config.validate_ok valid).2).1
    obtain ⟨a, rest, rfl⟩ := List.exists_cons_of_ne_nil (Address.parseList_ne_nil read)
    have quiet := targetEvents_opens config (a :: rest)
    cases ssl : config.ssl with
    | true =>
      obtain ⟨message, refused, head⟩ : ∃ message : String,
          unsupported? (targets config (a :: rest)) = some (.configuration message) ∧
            message.toList.head? = some 's' :=
        ⟨_, unsupported?_encrypted ssl a rest, Text.head?_append (Text.head?_append rfl _) _⟩
      refine ⟨message, targetEvents config (a :: rest), fun net => ?_, ⟨'s', head, by decide⟩,
        quiet⟩
      simp only [connect, valid, refused]
    | false =>
      have accepted := unsupported?_plain ssl (a :: rest)
      obtain ⟨cluster, selected⟩ : config.isClusterConnection = true ∧ 0 < config.database := by
        simpa [ssl] using (Config.unusable_iff_of_valid valid).1 unusable
      obtain ⟨message, refused, head⟩ : ∃ message : String,
          Factory.gather true (targets config (a :: rest)) = .error (.configuration message) ∧
            message.toList.head? = some 'd' :=
        ⟨_, gather_database selected a rest, Text.head?_append (Text.head?_append rfl _) _⟩
      refine ⟨message, targetEvents config (a :: rest) ++ [.connecting config.host config.mode],
        fun net => ?_, ⟨'d', head, by decide⟩, ?_⟩
      · simp only [connect, valid, accepted, connectTo, cluster, refused]
      · intro e mem
        rcases List.mem_append.1 mem with mem | mem
        · exact quiet e mem
        · rw [List.mem_singleton.1 mem]
          rfl

/-- A configuration that is usable has a factory, and connects through it. -/
theorem connect_usable (usable : ¬config.Unusable) :
    ∃ addresses f, config.addresses = .ok addresses ∧
      Factory.gather config.isClusterConnection (targets config addresses) = .ok f ∧
      f.lead.ssl = false ∧ ∀ net,
        (connect net config).value =
          (openBackend net config f).value.map (ofPool net config f) ∧
        ∀ e ∈ (connect net config).events, e.opens = true →
          e ∈ (openBackend net config f).events := by
  cases valid : config.validate with
  | error fault => exact absurd (Config.unusable_of_validate valid) usable
  | ok addresses =>
    have listed := (Config.validate_ok valid).2
    obtain ⟨a, rest, rfl⟩ :=
      List.exists_cons_of_ne_nil (Address.parseList_ne_nil (Config.addresses_ok listed).1)
    have left := mt (Config.unusable_iff_of_valid valid).2 usable
    simp only [not_or, not_and, Bool.not_eq_true] at left
    obtain ⟨plain, index⟩ := left
    obtain ⟨f, gathered⟩ := gather_targets a rest index
    have lead := Factory.gather_lead gathered
    simp only [targets_eq, List.map_cons, List.head?_cons, Option.some.injEq] at lead
    refine ⟨a :: rest, f, listed, gathered, lead ▸ plain, fun net => ?_⟩
    obtain ⟨value, events⟩ := connectTo_ok net gathered
    simp only [connect, valid, unsupported?_plain plain]
    refine ⟨value, fun e mem opens => ?_⟩
    rcases List.mem_append.1 mem with mem | mem
    · rw [targetEvents_opens config _ e mem] at opens
      cases opens
    · exact events e mem opens

/-! ## Opening the first connections -/

/-- What is opened first can fail, but not because of the settings. -/
theorem openBackend_error (plain : f.lead.ssl = false)
    (failed : (openBackend net config f).value = .error e) :
    ∃ message, e = .initialization message := by
  have direct {context : String} {event : Event}
      (failed : (openDirect (f.opener net) context event).value = .error e) :
      ∃ message, e = .initialization message := by
    simp only [openDirect] at failed
    split at failed
    · cases failed
    · rename_i failure unopened
      cases failed
      have network : failure.kind ≠ .invalidClientConfig := Factory.opener_error plain unopened
      exact ⟨context ++ ": " ++ failure.text, by simp only [Failure.toConnectError]⟩
  unfold openBackend at failed
  dsimp only at failed
  split at failed
  · simp only [openPool] at failed
    cases started :
        Pool.start (f.opener net) config.pool.maxSize.toNat config.pool.minIdle.toNat with
    | ok p =>
      rw [started] at failed
      cases failed
    | error failure =>
      rw [started] at failed
      cases failed
      exact ⟨_, rfl⟩
  · split at failed
    · exact direct failed
    · exact direct failed

/-- A pool is announced only where one is wanted, and with the limits that are configured. -/
theorem openBackend_poolCreated {maxSize minIdle : UInt32}
    (mem : .poolCreated maxSize minIdle ∈ (openBackend net config f).events) :
    config.connectionPooling = true ∧ maxSize = config.pool.maxSize ∧
      minIdle = config.pool.minIdle := by
  unfold openBackend at mem
  dsimp only at mem
  split at mem
  · rename_i pooled
    simpa [openPool, pooled] using mem
  · split at mem <;> simp [openDirect, Factory.openEvent] at mem

/-- What is opened first can be opened if every attempt succeeds. -/
theorem openBackend_ok (opens : ∀ n, ∃ d, f.opener net n = .ok d) :
    ∃ pool, (openBackend net config f).value = .ok pool := by
  have direct (context : String) (event : Event) :
      ∃ pool, (openDirect (f.opener net) context event).value = .ok pool := by
    obtain ⟨d, opened⟩ := opens 0
    exact ⟨.ofConnection d, by simp only [openDirect, opened]⟩
  unfold openBackend
  dsimp only
  split
  · obtain ⟨pool, started⟩ :=
      Pool.start_ok opens config.pool.maxSize.toNat config.pool.minIdle.toNat
    exact ⟨pool, by rw [openPool, started]; rfl⟩
  · split
    · exact direct _ _
    · exact direct _ _

/-! ## A single server -/

/-- Without a cluster there is one address, and one target. -/
theorem gather_standalone (single : config.isClusterConnection = false)
    (listed : config.addresses = .ok addresses)
    (gathered : Factory.gather config.isClusterConnection (targets config addresses) = .ok f) :
    ∃ a, addresses = [a] ∧ f = .standalone (config.target a) := by
  obtain ⟨read, few⟩ := Config.addresses_ok listed
  obtain ⟨a, rest, rfl⟩ := List.exists_cons_of_ne_nil (Address.parseList_ne_nil read)
  obtain rfl : rest = [] := by
    have len := few single
    rw [List.length_cons] at len
    exact List.length_eq_zero_iff.1 (by omega)
  rw [single] at gathered
  cases gathered
  exact ⟨a, rfl, rfl⟩

/-- A connector to a single server has the one target of its configuration. -/
theorem Connected.standalone {c : Connector} (h : Connected net config c f)
    (single : config.isClusterConnection = false) :
    ∃ a, config.addresses = .ok [a] ∧ f = .standalone (config.target a) := by
  obtain ⟨addresses, listed, gathered⟩ := h.gathered
  obtain ⟨a, rfl, rfl⟩ := gather_standalone single listed gathered
  exact ⟨a, listed, rfl⟩

/-- Every attempt to open a connection to the single server of the configuration succeeds. -/
def Accepting (net : Network) (config : Config) : Prop :=
  ∀ a, config.addresses = .ok [a] →
    ∀ n, ∃ d, (Factory.standalone (config.target a)).opener net n = .ok d

theorem Connected.opens {c : Connector} (h : Connected net config c f)
    (single : config.isClusterConnection = false) (accepting : Accepting net config) (n : Nat) :
    ∃ d, c.opener n = .ok d := by
  obtain ⟨a, listed, rfl⟩ := h.standalone single
  rw [h.opener]
  exact accepting a listed n

/-- A usable configuration connects to a server that accepts everyone. -/
theorem connect_accepted (usable : ¬config.Unusable) (single : config.isClusterConnection = false)
    (accepting : Accepting net config) :
    ∃ c, (connect net config).value = .ok c ∧ c.mode = .select false config.connectionPooling := by
  obtain ⟨addresses, f, listed, gathered, -, connects⟩ := connect_usable usable
  obtain ⟨a, rfl, rfl⟩ := gather_standalone single listed gathered
  obtain ⟨pool, opened⟩ : ∃ pool, (openBackend net config _).value = .ok pool :=
    openBackend_ok (accepting a listed)
  refine ⟨ofPool net config (.standalone (config.target a)) pool, ?_, ?_⟩
  · rw [(connects net).1, opened]
    rfl
  · rw [← single]
    rfl

/-! ## The outcome -/

/-- Connecting fails with a configuration error exactly if the configuration is unusable, and then
without opening anything. Otherwise there is a connector in the mode that the flags select, or an
initialization error. Nobody is told that hosts are missing, and a pool is built only with limits
that it accepts. -/
theorem connect_classified (net : Network) (config : Config) :
    let result := connect net config
    ((∃ message, result.value = .error (.configuration message)) ↔ config.Unusable) ∧
    (config.Unusable →
      (∀ other, connect other config = result) ∧ ∀ e ∈ result.events, e.opens = false) ∧
    (¬config.Unusable →
      (∃ c, result.value = .ok c ∧
        c.mode = .select config.isClusterConnection config.connectionPooling) ∨
      ∃ message, result.value = .error (.initialization message)) ∧
    result.value ≠ .error (.configuration "no host configured") ∧
    result.value ≠ .error (.configuration "no cluster nodes configured") ∧
    ∀ maxSize minIdle, .poolCreated maxSize minIdle ∈ result.events →
      0 < maxSize ∧ minIdle ≤ maxSize ∧ 0 < config.pool.maxWait.nanos := by
  intro result
  by_cases unusable : config.Unusable
  · obtain ⟨message, events, refused, ⟨c, head, other⟩, quiet⟩ := connect_unusable unusable
    have eq : result = ⟨.error (.configuration message), events⟩ := refused net
    have not_named (text : String) (named : text.toList.head? = some 'n') :
        result.value ≠ .error (.configuration text) := by
      intro same
      rw [eq] at same
      cases same
      rw [named] at head
      cases head
      exact other rfl
    refine ⟨⟨fun _ => unusable, fun _ => ⟨message, by rw [eq]⟩⟩, fun _ => ⟨fun other => ?_, ?_⟩,
      fun usable => absurd unusable usable, not_named _ rfl, not_named _ rfl, ?_⟩
    · rw [refused, eq]
    · rw [eq]
      exact quiet
    · intro maxSize minIdle mem
      rw [eq] at mem
      cases quiet _ mem
  · obtain ⟨addresses, f, -, -, plain, connects⟩ := connect_usable unusable
    obtain ⟨value, events⟩ := connects net
    have either : (∃ c, result.value = .ok c ∧
        c.mode = .select config.isClusterConnection config.connectionPooling) ∨
        ∃ message, result.value = .error (.initialization message) := by
      cases opened : (openBackend net config f).value with
      | ok pool =>
        rw [opened] at value
        exact .inl ⟨_, value, rfl⟩
      | error e =>
        rw [opened] at value
        obtain ⟨message, rfl⟩ := openBackend_error plain opened
        exact .inr ⟨message, value⟩
    have not_settings (text : String) : result.value ≠ .error (.configuration text) := by
      intro same
      rcases either with ⟨c, ok, -⟩ | ⟨message, failed⟩
      · rw [same] at ok
        cases ok
      · rw [same] at failed
        cases failed
    refine ⟨⟨fun ⟨text, same⟩ => absurd same (not_settings text), fun h => absurd h unusable⟩,
      fun h => absurd h unusable, fun _ => either, not_settings _, not_settings _, ?_⟩
    intro maxSize minIdle mem
    obtain ⟨pooled, rfl, rfl⟩ := openBackend_poolCreated (events _ mem rfl)
    exact PoolConfig.usable fun limits => unusable (.pool pooled limits)

-- two hosts will do for a cluster only
example : Config.Unusable { host := "a, b" } ∧
    ¬Config.Unusable { host := "a, b", isClusterConnection := true } := by decide +kernel

end Connector

end RedisClient
