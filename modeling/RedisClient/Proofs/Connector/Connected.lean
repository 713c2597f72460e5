import RedisClient.Connector
import RedisClient.Proofs.Connection.Exchange
import RedisClient.Proofs.Pool.Lending

/-!
# What connecting leaves behind

A connector that has connected has a factory behind it: `connect_ok` says which parts of the
connector come from it, and is all that later proofs know about connecting. New connections have
the read timeout of the configuration and nothing on its way (`Connected.new_readTimeout`,
`Connected.new_settled`); the pool starts with such connections only, none of them lent out.
-/

namespace RedisClient

/-! ## New connections -/

theorem SetupPlan.runSecondPart_ok {p : SetupPlan} {response : Response} {sent : List Greeting}
    {c : Connection} (h : p.runSecondPart response sent = .ok c) :
    c.readTimeout = p.timeout ∧ c.Settled := by
  have bare : ({ setup := sent, readTimeout := p.timeout } : Connection).Settled := fun _ => rfl
  unfold runSecondPart at h
  split at h
  · cases h
    exact ⟨rfl, bare⟩
  · dsimp only at h
    split at h
    · cases h
    · split at h
      · cases h
      · cases h
        exact ⟨Connection.exchange_readTimeout _ _ _, Connection.exchange_settled bare 0 response⟩

namespace Factory

variable {f : Factory} {net : Network} {c : Connection}

/-- The target whose options all connections of a factory share. -/
def lead : Factory → Target
  | standalone target => target
  | cluster seeds => seeds.first

def plan : Factory → SetupPlan
  | standalone target => .ofTarget target
  | cluster seeds => seeds.plan

theorem plan_timeout (f : Factory) : f.plan.timeout = f.lead.effectiveTimeout := by
  cases f <;> rfl

/-- An opened connection went through both parts of its set-up. -/
theorem opener_ok {n : Nat} (h : f.opener net n = .ok c) :
    ∃ sent, f.plan.runFirstPart (net.respond n) = .ok sent ∧
      f.plan.runSecondPart (net.respond n 0 .setName) sent = .ok c := by
  cases f with
  | standalone target =>
    simp only [opener, openStandalone] at h
    split at h
    · cases h
    · split at h
      · cases h
      · exact ⟨_, by assumption, h⟩
  | cluster seeds =>
    simp only [opener, openCluster] at h
    split at h
    · exact ⟨_, by assumption, h⟩
    · cases h

theorem new_connection (h : Pool.New (f.opener net) c) :
    c.readTimeout = f.lead.effectiveTimeout ∧ c.Settled := by
  obtain ⟨n, h⟩ := h
  obtain ⟨sent, -, second⟩ := opener_ok h
  rw [← plan_timeout]
  exact SetupPlan.runSecondPart_ok second

theorem gather_lead {cluster : Bool} {targets : List Target} (h : gather cluster targets = .ok f) :
    targets.head? = some f.lead := by
  unfold gather at h
  cases cluster with
  | false =>
    cases targets with
    | nil => cases h
    | cons first others =>
      cases h
      rfl
  | true =>
    cases targets with
    | nil => cases h
    | cons first others =>
      simp only [if_true, Seeds.gather] at h
      split at h
      · cases h
      · split at h
        · cases h
        · cases h
          rfl

end Factory

/-! ## The limits of pools -/

namespace PoolConfig

variable {limits : PoolConfig}

def Unusable (limits : PoolConfig) : Prop :=
  limits.maxSize = 0 ∨ limits.maxSize < limits.minIdle ∨ limits.maxWaitMillis = 0

theorem validate_eq_ok : limits.validate = .ok () ↔ ¬limits.Unusable := by
  unfold validate Unusable
  by_cases size : limits.maxSize = 0
  · simp [size]
  · by_cases idle : limits.maxSize < limits.minIdle
    · simp [size, idle]
    · by_cases wait : limits.maxWaitMillis = 0
      · simp [size, idle, wait]
      · simp [size, idle, wait]

/-- What a pool insists on when it is built. -/
theorem usable (h : ¬limits.Unusable) :
    0 < limits.maxSize ∧ limits.minIdle ≤ limits.maxSize ∧ 0 < limits.maxWait.nanos := by
  simp only [Unusable, not_or] at h
  obtain ⟨size, idle, wait⟩ := h
  rw [← UInt64.toNat_inj, UInt64.toNat_zero] at wait
  have waits : 0 < limits.maxWait.nanos := by
    simp only [maxWait, Duration.ofMillis]
    omega
  exact ⟨UInt32.pos_iff_ne_zero.2 size, UInt32.not_lt.1 idle, waits⟩

end PoolConfig

/-! ## The configured limits -/

namespace Config

def handleLimit (config : Config) : Nat :=
  if config.connectionPooling then config.pool.maxSize.toNat else 1

/-- How long a read waits for a reply that is not announced to take longer. -/
def readLimit (config : Config) : Option Duration :=
  if 0 < config.connectionTimeout then some (.ofMillis config.connectionTimeout.toUInt64) else none

theorem effectiveTimeout_build (config : Config) (a : Address) (password : Option String) :
    (Target.build a password config.options).effectiveTimeout = config.readLimit := by
  have isZero (ms : UInt64) : (Duration.ofMillis ms).isZero = (ms == 0) := by
    rw [Bool.eq_iff_iff, Duration.isZero, beq_iff_eq, beq_iff_eq, ← UInt64.toNat_inj,
      UInt64.toNat_zero]
    simp only [Duration.ofMillis]
    omega
  have zero {t : Int64} : t.toUInt64 = 0 ↔ t = 0 :=
    ⟨fun h => by simpa using congrArg UInt64.toInt64 h, fun h => by rw [h]; rfl⟩
  simp only [Target.effectiveTimeout, Target.build, options, readLimit]
  by_cases neg : 0 ≤ config.connectionTimeout
  · by_cases pos : 0 < config.connectionTimeout
    · have ne : ¬config.connectionTimeout = 0 := by
        intro h
        rw [h] at pos
        exact absurd pos (by decide)
      simp [neg, pos, isZero, zero, ne]
    · have eq : config.connectionTimeout = 0 := Int64.le_antisymm (Int64.not_lt.1 pos) neg
      simp [eq, isZero, zero.2 rfl]
  · have pos : ¬0 < config.connectionTimeout := fun h => neg (Int64.le_of_lt h)
    simp [neg, pos]

end Config

/-! ## Connectors -/

/-- A network in which every address answers and agrees to everything at once. -/
def Network.obliging : Network where
  dial _ := .accepted
  respond _ _ command := ⟨.reply (if command = .ping then .simple "PONG" else .okay), 0⟩

namespace Connector

variable {net : Network} {config : Config} {c : Connector} {f : Factory} {d : Connection}

/-- The connector has connected as configured, through a factory. -/
structure Connected (net : Network) (config : Config) (c : Connector) (f : Factory) : Prop where
  valid : config.connectionPooling = true → config.pool.validate = .ok ()
  gathered : ∃ addresses, config.addresses = .ok addresses ∧
    Factory.gather config.isClusterConnection (targets config addresses) = .ok f
  pool : (openBackend net config f).value = .ok c.pool
  mode : c.mode = config.mode
  opener : c.opener = f.opener net
  readTimeout : c.readTimeout = f.lead.effectiveTimeout
  maxWait : c.maxWait = config.pool.maxWait

theorem connect_ok (h : (connect net config).value = .ok c) : ∃ f, Connected net config c f := by
  unfold connect at h
  split at h
  · cases h
  · rename_i addresses valid
    dsimp only at h
    split at h
    · cases h
    · simp only [connectTo] at h
      split at h
      · cases h
      · rename_i f gathered
        split at h
        · cases h
        · rename_i pool opened
          cases h
          unfold Config.validate at valid
          split at valid
          · cases valid
          · rename_i limits
            refine ⟨f, fun pooled => by simpa [pooled] using limits, ⟨addresses, valid, gathered⟩,
              opened, rfl, rfl, ?_, rfl⟩
            rw [Factory.gather_lead gathered]
            rfl

namespace Connected

theorem new_readTimeout (h : Connected net config c f) (new : Pool.New c.opener d) :
    d.readTimeout = c.readTimeout := by
  rw [h.opener] at new
  rw [h.readTimeout]
  exact (Factory.new_connection new).1

theorem new_settled (h : Connected net config c f) (new : Pool.New c.opener d) : d.Settled := by
  rw [h.opener] at new
  exact (Factory.new_connection new).2

theorem readTimeout_eq (h : Connected net config c f) : c.readTimeout = config.readLimit := by
  obtain ⟨addresses, -, gathered⟩ := h.gathered
  have lead := Factory.gather_lead gathered
  simp only [targets, List.head?_map, Option.map_eq_some_iff] at lead
  obtain ⟨a, -, lead⟩ := lead
  rw [h.readTimeout, ← lead]
  exact Config.effectiveTimeout_build config a _

end Connected

/-! ## The pool at the start -/

/-- A pool with so much room, of which nothing is lent out, and whose idle connections are new. -/
structure Untouched (opener : Opener) (pooled : Bool) (capacity : Nat) (p : Pool) : Prop where
  sound : p.Sound
  inUse : p.inUse = 0
  capacity : p.capacity = capacity
  single : p.supply = .single ↔ pooled = false
  idle : ∀ d ∈ p.idle, Pool.New opener d

theorem openDirect_untouched {opener : Opener} {context : String} {event : Event} {p : Pool}
    (h : (openDirect opener context event).value = .ok p) : Untouched opener false 1 p := by
  simp only [openDirect] at h
  split at h
  · rename_i c opened
    cases h
    exact ⟨⟨Nat.le_refl 1, fun _ => rfl⟩, rfl, rfl, by simp [Pool.ofConnection],
      fun d hd => ⟨0, by simpa [Pool.ofConnection, List.mem_singleton.1 hd] using opened⟩⟩
  · cases h

theorem openPool_untouched {opener : Opener} {limits : PoolConfig} {p : Pool}
    (valid : limits.validate = .ok ()) (h : (openPool opener limits).value = .ok p) :
    Untouched opener true limits.maxSize.toNat p := by
  obtain ⟨size, idle, -⟩ := PoolConfig.usable (PoolConfig.validate_eq_ok.1 valid)
  rw [UInt32.lt_iff_toNat_lt, UInt32.toNat_zero] at size
  rw [UInt32.le_iff_toNat_le] at idle
  simp only [openPool, Pool.start] at h
  obtain ⟨opened, grown, le, -⟩ := Pool.openReady_grown opener (max 1 limits.minIdle.toNat)
    ⟨.elastic limits.maxSize.toNat limits.minIdle.toNat, [], 0, 0⟩
  split at h
  · cases h
  · rename_i q eq
    cases h
    rw [eq] at grown
    have supply := grown.supply
    refine ⟨⟨?_, fun single => ?_⟩, grown.inUse, grown.capacity, ?_, fun d hd => ?_⟩
    · rw [grown.size, grown.capacity]
      simp only [Pool.size, Pool.capacity, List.length_nil]
      omega
    · rw [supply] at single
      cases single
    · have elastic : p.supply = _ := supply
      simp [elastic]
    · rw [grown.idle, List.nil_append] at hd
      exact grown.fresh d hd

theorem Connected.untouched (h : Connected net config c f) :
    Untouched c.opener config.connectionPooling config.handleLimit c.pool := by
  have opened := h.pool
  rw [h.opener]
  unfold openBackend at opened
  unfold Config.handleLimit
  cases pooled : config.connectionPooling with
  | true =>
    simp only [pooled, if_true] at opened ⊢
    exact openPool_untouched (h.valid pooled) opened
  | false =>
    simp only [pooled, Bool.false_eq_true, if_false] at opened ⊢
    split at opened
    · exact openDirect_untouched opened
    · exact openDirect_untouched opened

end Connector

end RedisClient
