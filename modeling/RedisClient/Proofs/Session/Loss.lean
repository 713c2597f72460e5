import RedisClient.Proofs.Connector.Connecting
import RedisClient.Proofs.Session.Order

/-!
# Lost connections

The server may close a connection instead of replying. The command then fails in any case. What
becomes of the connection depends on the mode. A pool drops it as soon as the client has learned of
the loss, and lends only connections that are open and completely set up (`lease_sound`). A direct
connection stays, and is of no use any more: each later call fails, sends nothing, and gives the
connection back (`cut_sound`).

A pool does not test its connections before it lends them. A hang-up that comes too late for the
client to hear of is noticed by the next borrower of the connection only; where no hang-up goes
unnoticed, the server stays on all connections that are lent (`run_serving`).
-/

namespace RedisClient

/-- The call failed as if the server were to blame, without a code. -/
def Report.Failed (r : Report) : Prop :=
  ∃ message, r.result = .called (.error (.server none message))

namespace Session

open Connector

variable {s s' : Session} {c d : Connection} {connector : Connector} {slot : Option Nat}
  {call : Call} {response : Response} {plan : SetupPlan} {net : Network} {config : Config}
  {f : Factory}

/-! ## Single calls -/

/-- A valid call that hears of no reply fails. -/
theorem call_unheard (got : s.handle slot = .ok (c, s')) (settings : Settings connector s')
    (ordered : c.InOrder connector.readTimeout) (valid : call.Valid connector.readTimeout)
    (unheard : ∀ limit, ({ c with readTimeout := limit } : Connection).Hears s'.now response →
      response.reaction = .hangUp) : (s.step (.call slot call response)).1.Failed := by
  obtain ⟨limit, inForce⟩ := valid.limit
  obtain ⟨message, failed⟩ := runOn_unheard valid.fine ordered.readTimeout inForce ordered.settled
    (unheard limit) connector.mode.isPooled
  obtain ⟨report, -⟩ := call_ran got settings call response
  refine ⟨message, ?_⟩
  rw [step_result, report, failed]

/-- A valid call on a lost connection fails, and nothing is sent. -/
theorem call_lost (got : s.handle slot = .ok (c, s')) (settings : Settings connector s')
    (ordered : c.InOrder connector.readTimeout) (lost : c.Lost)
    (valid : call.Valid connector.readTimeout) (response : Response) :
    (s.step (.call slot call response)).1.Failed ∧
      (s.step (.call slot call response)).1.sent = [] := by
  obtain ⟨limit, inForce⟩ := valid.limit
  obtain ⟨⟨message, failed⟩, unsent⟩ := runOn_lost valid.fine ordered.readTimeout inForce
    ordered.settled lost connector.mode.isPooled s'.now response
  obtain ⟨report, -⟩ := call_ran got settings call response
  refine ⟨⟨message, ?_⟩, ?_⟩
  · rw [step_result, report, failed]
  · rw [step_sent, report, unsent]

/-! ## Leases from a pool -/

/-- What a borrower gets: an open connection that went through the complete set-up. If the server
stays on it, a valid command is received, and the outcome is read from the reply to it; otherwise
the command fails without being sent. -/
structure Lease (config : Config) (s : Session) (slot : Option Nat) (s' : Session)
    (c : Connection) : Prop where
  isOpen : c.isOpen = true
  setup : ∃ a, config.addresses = .ok [a] ∧
    (SetupPlan.ofTarget (config.target a)).Complete c.setup
  served : c.hangsUp = false → ∀ call response, call.Valid config.readLimit →
    (s.step (.call slot call response)).1.sent = [call.command] ∧
    ∀ limit r, limit? config.readLimit call = some limit →
      ({ c with readTimeout := limit } : Connection).Hears s'.now response →
      response.reaction = .reply r →
      (s.step (.call slot call response)).1.result =
        .called (outcomeOf call.method.spec.shape (.ok r))
  lost : c.hangsUp = true → ∀ call response, call.Valid config.readLimit →
    (s.step (.call slot call response)).1.Failed ∧
      (s.step (.call slot call response)).1.sent = []

theorem lease_sound (connected : Connected net config connector f)
    (single : config.isClusterConnection = false) (pooled : config.connectionPooling = true)
    (orderly : Orderly connector f.plan none s) (slotted : s.Slotted) (fresh : s.Fresh slot)
    (got : s.handle slot = .ok (d, s')) : Lease config s slot s' d := by
  obtain ⟨a, listed, rfl⟩ := connected.standalone single
  have several : connector.pool.supply ≠ .single := by
    rw [ne_eq, connected.untouched.single, pooled]
    simp
  have lent := (orderly_invariant connected).handle slotted orderly got
  have settings := lent.every.settings
  obtain ⟨ordered, complete⟩ := lent.every.hand d rfl
  have isOpen := fresh_isOpen connected orderly several fresh got
  have base := connected.readTimeout_eq
  refine ⟨isOpen, ⟨a, listed, complete⟩, fun served call response valid => ?_,
    fun hangs call response valid => ?_⟩
  · rw [← base] at valid ⊢
    obtain ⟨limit, inForce⟩ := valid.limit
    obtain ⟨report, -⟩ := call_ran got settings call response
    have received := runOn_received valid.fine ordered.readTimeout inForce isOpen served
      connector.mode.isPooled s'.now response
    refine ⟨by rw [step_sent, report, received], fun limit' r inForce' heard reply => ?_⟩
    rw [step_result, report, runOn_reply valid.fine ordered.readTimeout inForce' ordered.settled
      heard reply]
  · rw [← base] at valid
    exact call_lost got settings ordered (fun _ => hangs) valid response

/-! ## Hang-ups in time -/

/-- Whenever the server hangs up on getting a command of the run, the client hears of it. -/
def Notices (s : Session) (ts : List Step) : Prop :=
  ∀ i slot call response c s' limit, ts[i]? = some (.call slot call response) →
    (s.run (ts.take i)).2.handle slot = .ok (c, s') → call.refusal? = none →
    limit? s'.connector.readTimeout call = some limit →
    ({ c with readTimeout := limit } : Connection).Notices s'.now response

abbrev Serving (connector : Connector) : Option Connection → Session → Prop :=
  Every connector fun d => d.InOrder connector.readTimeout ∧ d.hangsUp = false

theorem serving_moves (connected : Connected net config connector f) : Moves (Serving connector) :=
  every_moves fun _ _ new => ⟨new_inOrder connected new, (new_clean connected new).served⟩

theorem serving_called (h : Serving connector (some c) s) (call : Call) (response : Response)
    (notices : ∀ limit, call.refusal? = none → limit? connector.readTimeout call = some limit →
      ({ c with readTimeout := limit } : Connection).Notices s.now response) :
    Serving connector (some (Connector.runOn c s.connector.mode.isPooled s.connector.readTimeout
      s.now call response).connection) s := by
  obtain ⟨ordered, served⟩ := h.hand c rfl
  refine ⟨h.settings, h.idle, h.held, ?_⟩
  rintro d ⟨⟩
  rw [h.settings.readTimeout]
  exact ⟨⟨runOn_readTimeout ordered.readTimeout, runOn_settled ordered.readTimeout ordered.settled⟩,
    runOn_serving ordered.readTimeout ordered.settled served notices⟩

theorem run_serving (connected : Connected net config connector f) (slotted : s.Slotted)
    (h : Serving connector none s) {ts : List Step} (notices : s.Notices ts) :
    Serving connector none (s.run ts).2 := by
  refine ((serving_moves connected).run ts slotted h ?_).1
  intro i slot call response c s' here got h
  refine serving_called h call response fun limit fine inForce => ?_
  rw [← h.settings.readTimeout] at inForce
  exact notices i slot call response c s' limit here got fine inForce

theorem start_serving (connected : Connected net config connector f) :
    Serving connector none (start connector) :=
  start_every connected fun new => ⟨new_inOrder connected new, (new_clean connected new).served⟩

/-! ## A lost direct connection -/

/-- The direct connection of the session is of no use: calls fail, send nothing and give it back,
and closing says no goodbye. -/
structure Cut (config : Config) (s : Session) : Prop where
  failed : ∀ slot call response d s', s.handle slot = .ok (d, s') → call.Valid config.readLimit →
    (s.step (.call slot call response)).1.Failed ∧
    (s.step (.call slot call response)).1.sent = [] ∧
    (s.step (.call slot call response)).2.leased = 0
  granted : s.leased = 0 → ∀ slot, ∃ d s', s.handle slot = .ok (d, s')
  closes : ∀ response, (s.step (.close response)).1.result = .closed ∧
    (s.step (.close response)).1.sent = []

abbrev AllLost (connector : Connector) : Option Connection → Session → Prop :=
  Every connector fun d => d.InOrder connector.readTimeout ∧ d.Lost

theorem allLost_invariant (single : connector.pool.supply = .single) :
    Invariant (AllLost connector) := by
  refine every_invariant (fun several => absurd single several) fun now call response h => ?_
  exact ⟨⟨runOn_readTimeout h.1.readTimeout, runOn_settled h.1.readTimeout h.1.settled⟩,
    runOn_keeps_lost h.1.readTimeout h.2⟩

/-- While the direct connection is in hand, there is no other. -/
theorem hand_alone (orderly : Orderly connector plan (some c) s)
    (single : connector.pool.supply = .single) :
    s.connector.pool.idle = [] ∧ s.held = [] ∧ s.connector.pool.inUse = 1 := by
  have one := orderly.balanced.sound.single (orderly.every.settings.supply.trans single)
  have inUse := orderly.balanced.inUse
  simp only [Pool.size, Option.toList_some, List.length_singleton] at one inUse
  exact ⟨List.length_eq_zero_iff.1 (by omega), List.length_eq_zero_iff.1 (by omega), by omega⟩

theorem leased_single (orderly : Orderly connector plan none s)
    (single : connector.pool.supply = .single) :
    s.leased = s.connector.pool.inUse ∧ s.connector.pool.capacity = 1 := by
  have supply : s.connector.pool.supply = .single := orderly.every.settings.supply.trans single
  have capacity : s.connector.pool.capacity = 1 := by rw [Pool.capacity, supply]
  exact ⟨leased_eq orderly.balanced.sound (by rw [capacity]; decide), capacity⟩

/-- After a call on the direct connection, it is not in use. -/
theorem call_frees (connected : Connected net config connector f)
    (orderly : Orderly connector f.plan none s) (slotted : s.Slotted)
    (single : connector.pool.supply = .single) (got : s.handle slot = .ok (c, s')) (call : Call)
    (response : Response) : (s.step (.call slot call response)).2.leased = 0 := by
  have invariant := orderly_invariant connected
  obtain ⟨-, -, one⟩ := hand_alone (invariant.handle slotted orderly got) single
  obtain ⟨after, -⟩ := invariant.act slotted orderly (.call slot call response)
  obtain ⟨inUse, -⟩ := call_inUse got call response
  rw [step_snd, (leased_single after single).1, inUse, one]

/-- The call on which the server hangs up leaves nothing but a lost connection. -/
theorem call_cuts (connected : Connected net config connector f)
    (orderly : Orderly connector f.plan none s) (slotted : s.Slotted)
    (single : connector.pool.supply = .single) (got : s.handle slot = .ok (c, s'))
    (valid : call.Valid connector.readTimeout) (ends : response.reaction = .hangUp) :
    AllLost connector none (s.step (.call slot call response)).2 := by
  have lent := (orderly_invariant connected).handle slotted orderly got
  obtain ⟨idle, held, -⟩ := hand_alone lent single
  obtain ⟨ordered, -⟩ := lent.every.hand c rfl
  obtain ⟨limit, inForce⟩ := valid.limit
  have moves := (allLost_invariant single).toMoves
  have left : AllLost connector (some (Connector.runOn c connector.mode.isPooled
      connector.readTimeout s'.now call response).connection) s' := by
    refine ⟨lent.every.settings, by simp [idle], by simp [held], ?_⟩
    rintro d ⟨⟩
    exact ⟨⟨runOn_readTimeout ordered.readTimeout,
      runOn_settled ordered.readTimeout ordered.settled⟩,
      (runOn_hangUp valid.fine ordered.readTimeout inForce ordered.settled ends _ _).1⟩
  obtain ⟨-, after, held⟩ := call_ran got lent.every.settings call response
  obtain ⟨kept, -⟩ := (orderly_invariant connected).act slotted orderly (.call slot call response)
  have back := moves.giveBack left
  exact ⟨kept.every.settings, after ▸ back.idle, held ▸ back.held, by simp⟩

theorem cut_sound (connected : Connected net config connector f)
    (direct : config.connectionPooling = false) (orderly : Orderly connector f.plan none s)
    (slotted : s.Slotted) (lost : AllLost connector none s) : Cut config s := by
  have single : connector.pool.supply = .single := connected.untouched.single.2 direct
  have base := connected.readTimeout_eq
  have invariant := allLost_invariant single
  refine ⟨fun slot call response d s' got valid => ?_, fun free slot => ?_, fun response => ?_⟩
  · rw [← base] at valid
    obtain ⟨settings, -, -, hand⟩ := invariant.handle slotted lost got
    obtain ⟨ordered, lost⟩ := hand d rfl
    obtain ⟨failed, unsent⟩ := call_lost got settings ordered lost valid response
    exact ⟨failed, unsent, call_frees connected orderly slotted single got call response⟩
  · obtain ⟨leased, capacity⟩ := leased_single orderly single
    refine handle_granted orderly.balanced.sound (by omega) (fun several => ?_) slot
    exact absurd (orderly.every.settings.supply.trans single) several
  · refine ⟨by rw [step_result]; rfl, ?_⟩
    obtain ⟨released, -⟩ := invariant.releaseAll slotted lost
    rw [step_sent]
    simp only [act, Session.close, Connector.close]
    split
    · rename_i d rest _ idle
      exact sayGoodbye_lost (released.idle d (by rw [idle]; simp)).2 _ _
    · rfl

/-! ## After a loss -/

/-- When the server hangs up on getting a valid command, at any point of a run, the command fails.
A pool drops the connection if the client hears of the loss in time; the next borrower gets one if
one can be opened, and whatever is lent afresh from then on is a sound lease, of a connection on
which the server stays unless some hang-up came too late to be heard of. A direct connection is cut
from then on, and not in use. -/
theorem losses_contained (connected : (connect net config).value = .ok connector)
    (single : config.isClusterConnection = false) (ts : List Step) (slot : Option Nat) (call : Call)
    (response : Response) (got : ((start connector).run ts).2.handle slot = .ok (c, s'))
    (valid : call.Valid config.readLimit) (ends : response.reaction = .hangUp) :
    let loss := ((start connector).run ts).2.step (.call slot call response)
    let heard := ∀ limit, limit? config.readLimit call = some limit →
      ({ c with readTimeout := limit } : Connection).Hears s'.now response
    loss.1.Failed ∧
    (config.connectionPooling = true →
      (heard → loss.2.connector.pool = Pool.refill connector.opener
        { s'.connector.pool with inUse := s'.connector.pool.inUse - 1 }) ∧
      (CanOpen loss.2.connector → ∃ d s'', loss.2.handle none = .ok (d, s'')) ∧
      ∀ later slot d s'', (loss.2.run later).2.Fresh slot →
        (loss.2.run later).2.handle slot = .ok (d, s'') →
        Lease config (loss.2.run later).2 slot s'' d ∧
        ((start connector).Notices ts → heard → loss.2.Notices later → d.hangsUp = false)) ∧
    (config.connectionPooling = false →
      loss.2.leased = 0 ∧ ∀ later, Cut config (loss.2.run later).2) := by
  intro loss heard
  obtain ⟨f, connected⟩ := connect_ok connected
  have invariant := orderly_invariant connected
  obtain ⟨orderly, slotted⟩ := run_orderly connected ts
  have lent := invariant.handle slotted orderly got
  obtain ⟨ordered, -⟩ := lent.every.hand c rfl
  obtain ⟨after, afterSlotted⟩ := invariant.act slotted orderly (.call slot call response)
  have base := connected.readTimeout_eq
  rw [← base] at valid
  refine ⟨?_, fun pooled => ⟨fun heard => ?_, fun opens => ?_, ?_⟩, fun direct => ⟨?_, ?_⟩⟩
  · exact call_unheard got lent.every.settings ordered valid fun _ _ => ends
  · obtain ⟨limit, inForce⟩ := valid.limit
    obtain ⟨-, pool, -⟩ := call_ran got lent.every.settings call response
    obtain ⟨-, closed⟩ := runOn_hangUp valid.fine ordered.readTimeout inForce ordered.settled ends
      connector.mode.isPooled s'.now
    have several : s'.connector.pool.supply ≠ .single := by
      rw [lent.every.settings.supply, ne_eq, connected.untouched.single, pooled]
      simp
    obtain ⟨a, -, rfl⟩ := connected.standalone single
    have broken : (Factory.standalone (config.target a)).hasBroken (Connector.runOn c
        connector.mode.isPooled connector.readTimeout s'.now call response).connection = true := by
      rw [Factory.hasBroken, closed (heard limit (base ▸ inForce)), Bool.not_false]
    rw [step_snd, pool, ← lent.every.settings.opener, Connector.giveBack,
      Pool.giveBack_broken several broken]
  · obtain ⟨inUse, supply⟩ := call_inUse got call response
    have inHand := lent.balanced.inUse
    have most := Pool.inUse_le lent.balanced.sound
    refine handle_granted after.balanced.sound ?_ (fun _ => opens) none
    simp only [Option.toList_some, List.length_singleton] at inHand
    rw [Pool.capacity, supply, ← Pool.capacity, inUse]
    omega
  · intro later slot' d s'' fresh again
    obtain ⟨orderly', slotted'⟩ := invariant.run later afterSlotted after
    refine ⟨lease_sound connected single pooled orderly' slotted' fresh again, ?_⟩
    intro before heard afterwards
    have serving := run_serving connected (start_slotted connector) (start_serving connected) before
    have moves := serving_moves connected
    obtain ⟨serving, -⟩ : Serving connector none loss.2 ∧ loss.2.Slotted := by
      refine moves.act slotted serving (.call slot call response) ?_
      rintro _ _ _ c' s₁ ⟨⟩ got' serving
      rw [got] at got'
      cases got'
      refine serving_called serving call response fun limit _ inForce _ _ => ?_
      exact heard limit (base ▸ inForce)
    have serving := run_serving connected afterSlotted serving afterwards
    exact ((moves.handle slotted' serving again).hand d rfl).2
  · have single := connected.untouched.single.2 direct
    exact call_frees connected orderly slotted single got call response
  · intro later
    have single := connected.untouched.single.2 direct
    have lost := call_cuts connected orderly slotted single got valid ends
    obtain ⟨orderly', slotted'⟩ := invariant.run later afterSlotted after
    obtain ⟨lost', -⟩ := (allLost_invariant single).run later afterSlotted lost
    exact cut_sound connected direct orderly' slotted' lost'

/-- The server hangs up on the first command; the second is received on another connection. -/
theorem losses_contained_pooled :
    ∃ connector, (connect .obliging { host := "cache", connectionPooling := true }).value =
        .ok connector ∧
      let loss := (start connector).step (.call none ⟨.get, "key", ()⟩ ⟨.hangUp, 0⟩)
      loss.1.Failed ∧ ∃ d s', loss.2.handle none = .ok (d, s') ∧ d.isOpen = true ∧
        (loss.2.step (.call none ⟨.get, "key", ()⟩ ⟨.reply .nil, 0⟩)).1.sent =
          [["GET", "key"]] := by
  obtain ⟨connector, connected, ⟨c, s', got, isOpen, served⟩, opens⟩ : ∃ connector,
      (connect .obliging { host := "cache", connectionPooling := true }).value = .ok connector ∧
      (∃ c s', (start connector).handle none = .ok (c, s') ∧ c.isOpen = true ∧
        c.hangsUp = false) ∧
      CanOpen ((start connector).step (.call none ⟨.get, "key", ()⟩ ⟨.hangUp, 0⟩)).2.connector :=
    ⟨_, rfl, handle_exists (by decide +kernel), by decide +kernel⟩
  have valid : (⟨.get, "key", ()⟩ : Call).Valid none :=
    ⟨Call.refusal_none rfl, fun d n limit => by cases limit⟩
  obtain ⟨failed, pooled, -⟩ := losses_contained connected rfl [] none ⟨.get, "key", ()⟩
    ⟨.hangUp, 0⟩ got valid rfl
  obtain ⟨-, granted, leases⟩ := pooled rfl
  obtain ⟨d, s'', again⟩ := granted opens
  obtain ⟨lease, stays⟩ := leases [] none d s'' (fun n other => by cases other) again
  have quiet (s : Session) : s.Notices [] := by
    intro i slot call response c s' limit here
    cases here
  have served : d.hangsUp = false := by
    refine stays (quiet _) (fun limit inForce => ?_) (quiet _)
    cases inForce
    exact ⟨isOpen, served, Connection.inTime_unlimited _ _⟩
  obtain ⟨sent, -⟩ := lease.served served ⟨.get, "key", ()⟩ ⟨.reply .nil, 0⟩ valid
  exact ⟨connector, connected, failed, d, s'', again, lease.isOpen, sent⟩

/-- The server hangs up half a second after the client has given the command up. Later the
connection is lent again, as if it were usable: the command fails and is not sent, although the
server would accept another connection. -/
theorem late_hangUp_leased_again :
    ∃ connector, (connect .obliging
        { host := "cache", connectionPooling := true, connectionTimeout := 1000,
          pool := { maxSize := 2 } }).value = .ok connector ∧
      let before := ((start connector).run
        [.hold,
          .call none ⟨.get, "key", ()⟩ ⟨.hangUp, 1500000000⟩,
          .call (some 0) ⟨.get, "key", ()⟩ ⟨.reply .nil, 900000000⟩,
          .hold]).2
      let again := before.step (.call none ⟨.get, "key", ()⟩ ⟨.reply .nil, 0⟩)
      CanOpen before.connector ∧
      (∃ c s', before.handle none = .ok (c, s') ∧ c.isOpen = true ∧ c.hangsUp = true ∧
        c.serverFree 0 < s'.now) ∧
      again.1.result = .called (.error Connection.endOfStream.toError) ∧ again.1.sent = [] := by
  exact ⟨_, rfl, by decide +kernel, handle_exists (by decide +kernel), by decide +kernel,
    by decide +kernel⟩

end Session

end RedisClient
