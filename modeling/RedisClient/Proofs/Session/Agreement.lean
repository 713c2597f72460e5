import RedisClient.Proofs.Connector.Connecting
import RedisClient.Proofs.Session.Order
import RedisClient.Proofs.Session.ReadTimeout

/-!
# Direct and pooled connections

A run of calls on fresh handles, all of which are replied to in time, never has more than one
connection in use, and leaves every connection as it was (`runOn_prompt`). Between two such calls
the session is `Quiet`: nothing is held and nothing is on its way. What a call then comes to, and
what is sent for it, depends on the call, its reply and the read timeout only (`step_expected`), and
neither on the mode nor on the limits of a pool. So a pool and a direct connection agree
(`pooled_agrees_direct`).
-/

namespace RedisClient

/-- A call on a fresh handle, and the reply that the server sends after some time. -/
structure Request where
  call : Call
  reply : Reply
  delay : Nat

namespace Request

open Connector

def step (q : Request) : Step := .call none q.call ⟨.reply q.reply, q.delay⟩

/-- The reply comes within the read timeout that is in force for the call. -/
def Prompt (base : Option Duration) (q : Request) : Prop :=
  ∀ d ∈ (limit? base q.call).join, q.delay < d.nanos

instance (base : Option Duration) (q : Request) : Decidable (q.Prompt base) :=
  inferInstanceAs (Decidable (∀ d ∈ (limit? base q.call).join, q.delay < d.nanos))

/-- What the call comes to when its reply is heard of, and what is sent for it. -/
def expected (base : Option Duration) (q : Request) : StepResult × List (List String) :=
  match q.call.refusal? with
  | some e => (.called (.error e), [])
  | none =>
    match limit? base q.call with
    | none => (.called .panic, [])
    | some _ => (.called (outcomeOf q.call.method.spec.shape (.ok q.reply)), [q.call.command])

/-- A request whose reply comes in time comes to what is expected, and changes nothing about its
connection. -/
theorem runOn_prompt {q : Request} {c : Connection} (clean : c.Clean)
    (prompt : q.Prompt c.readTimeout) (pooled : Bool) (now : Nat) :
    let ran := runOn c pooled c.readTimeout now q.call ⟨.reply q.reply, q.delay⟩
    (.called ran.outcome, ran.sent) = q.expected c.readTimeout ∧ ran.connection = c := by
  intro ran
  rcases runOn_cases c pooled now q.call ⟨.reply q.reply, q.delay⟩ with ⟨e, refused, eq⟩ |
    ⟨fine, overflow, eq⟩ | ⟨fine, limit, inForce, eq⟩
  · simp only [ran, eq, expected, refused, and_self]
  · simp only [ran, eq, expected, fine, overflow, and_self]
  · have clean : ({ c with readTimeout := limit } : Connection).Clean :=
      ⟨clean.isOpen, clean.skip, clean.inbox⟩
    have inTime : ∀ d, limit = some d → q.delay < d.nanos := by
      rintro d rfl
      exact prompt d (by rw [inForce]; rfl)
    have exchanged : ({ c with readTimeout := limit } : Connection).exchange now
        ⟨.reply q.reply, q.delay⟩ = _ := clean.exchange_reply inTime rfl
    simp only [ran, eq, expected, fine, inForce, exchanged, if_true, and_self]

end Request

namespace Session

open Connector

variable {s : Session} {connector : Connector} {net net' : Network} {config : Config} {f : Factory}
  {q : Request}

/-- What callers and the server see of a run: what each step came to, and what was sent for it. -/
def seen (run : List Report × Session) : List (StepResult × List (List String)) :=
  run.1.map fun r => (r.result, r.sent)

/-! ## Between two requests -/

/-- All connections are clean and wait for replies as usual. -/
abbrev AllClean (connector : Connector) : Option Connection → Session → Prop :=
  Every connector fun d => d.Clean ∧ d.readTimeout = connector.readTimeout

/-- Nothing is held, nothing is on its way, and no connection is lost track of. -/
structure Quiet (connector : Connector) (s : Session) : Prop where
  clean : AllClean connector none s
  balanced : Balanced none s
  free : s.held = []
  running : s.isClosed = false

theorem Quiet.slotted (h : Quiet connector s) : s.Slotted := by
  have none : s.slots = [] := by rw [slots, h.free, List.map_nil]
  exact ⟨by simp [none], by simp [none]⟩

theorem start_quiet (connected : Connected net config connector f) :
    Quiet connector (start connector) := by
  refine ⟨start_every connected fun new => ?_,
    ⟨connected.untouched.sound, connected.untouched.inUse⟩, rfl, rfl⟩
  exact ⟨new_clean connected new, connected.new_readTimeout new⟩

theorem allClean_moves (connected : Connected net config connector f) :
    Moves (AllClean connector) :=
  every_moves fun _ _ new => ⟨new_clean connected new, connected.new_readTimeout new⟩

/-- No call closes a session. -/
theorem call_isClosed (s : Session) (slot : Option Nat) (call : Call) (response : Response) :
    (s.act (.call slot call response)).2.isClosed = s.isClosed := by
  rw [act_call]
  rcases handle_cases s slot with ⟨n, c, -, -, eq⟩ | ⟨-, c, p, -, eq⟩ | ⟨-, e, p, -, eq⟩ <;> rw [eq]
  · rfl
  · rfl
  · rfl

/-- A connection is to be had while nothing is held. -/
theorem Quiet.handle (h : Quiet connector s) (room : 0 < connector.pool.capacity)
    (opens : ∀ n, ∃ d, connector.opener n = .ok d) : ∃ c s', s.handle none = .ok (c, s') := by
  have settings := h.clean.settings
  have inUse : s.connector.pool.inUse = 0 := by simp [h.balanced.inUse, h.free]
  have capacity : s.connector.pool.capacity = connector.pool.capacity := by
    rw [Pool.capacity, Pool.capacity, settings.supply]
  refine handle_granted h.balanced.sound (by omega) (fun _ => ?_) none
  rw [CanOpen, settings.opener]
  exact opens _

/-- A request in a quiet session comes to what is expected, and leaves the session quiet. -/
theorem step_expected (connected : Connected net config connector f)
    (room : 0 < connector.pool.capacity) (opens : ∀ n, ∃ d, connector.opener n = .ok d)
    (h : Quiet connector s) (prompt : q.Prompt connector.readTimeout) :
    ((s.step q.step).1.result, (s.step q.step).1.sent) =
        q.expected connector.readTimeout ∧
      Quiet connector (s.step q.step).2 := by
  have moves := allClean_moves connected
  obtain ⟨c, s', got⟩ := h.handle room opens
  have lent := moves.handle h.slotted h.clean got
  obtain ⟨clean, usual⟩ := lent.hand c rfl
  rw [← usual] at prompt
  constructor
  · obtain ⟨report, -⟩ := call_ran got lent.settings q.call ⟨.reply q.reply, q.delay⟩
    obtain ⟨outcome, -⟩ := Request.runOn_prompt clean prompt connector.mode.isPooled s'.now
    rw [usual] at outcome
    rw [step_result, step_sent, Request.step, report, ← outcome]
  · refine ⟨?_, (balanced_invariant.act h.slotted h.balanced q.step).1, ?_, ?_⟩
    · refine (moves.act h.slotted h.clean q.step ?_).1
      rintro _ _ _ d s'' ⟨⟩ got' lent'
      rw [got] at got'
      cases got'
      obtain ⟨-, same⟩ := Request.runOn_prompt clean prompt s'.connector.mode.isPooled s'.now
      rw [lent.settings.readTimeout, ← usual, same]
      exact lent
    · rw [step_snd, Request.step, call_held, h.free, List.filter_nil]
    · rw [step_snd, Request.step, call_isClosed, h.running]

/-- A run of requests is seen as the requests lead to expect. -/
theorem run_expected (connected : Connected net config connector f)
    (room : 0 < connector.pool.capacity) (opens : ∀ n, ∃ d, connector.opener n = .ok d)
    (requests : List Request) (h : Quiet connector s)
    (prompt : ∀ q ∈ requests, q.Prompt connector.readTimeout) :
    seen (s.run (requests.map Request.step)) =
      requests.map (Request.expected connector.readTimeout) := by
  induction requests generalizing s with
  | nil => rfl
  | cons q rest ih =>
    obtain ⟨first, quiet⟩ := step_expected connected room opens h (prompt q List.mem_cons_self)
    have others := ih quiet fun q mem => prompt q (List.mem_cons_of_mem _ mem)
    rw [List.map_cons, run_cons_open quiet.running, List.map_cons, ← first, ← others]
    rfl

/-! ## Agreement -/

/-- However a usable configuration has its connections, with a server that accepts everyone it
connects, and requests are seen as they lead to expect. -/
theorem connect_expected (usable : ¬config.Unusable) (single : config.isClusterConnection = false)
    (accepting : Accepting net config) (requests : List Request)
    (prompt : ∀ q ∈ requests, q.Prompt config.readLimit) :
    ∃ connector, (connect net config).value = .ok connector ∧
      connector.mode = .select false config.connectionPooling ∧
      seen ((start connector).run (requests.map Request.step)) =
        requests.map (Request.expected config.readLimit) := by
  obtain ⟨connector, ok, mode⟩ := connect_accepted usable single accepting
  obtain ⟨f, connected⟩ := connect_ok ok
  have room : 0 < connector.pool.capacity := by
    rw [connected.untouched.capacity]
    exact Config.handleLimit_pos usable
  rw [← connected.readTimeout_eq] at prompt ⊢
  exact ⟨connector, ok, mode, run_expected connected room (connected.opens single accepting)
    requests (start_quiet connected) prompt⟩

/-- Two usable configurations for a single server that differ in pooling only, and servers that
accept everyone: both connect, and requests that are replied to in time come to the same results
and to the same commands sent, step by step and whatever the limits of the pool are. -/
theorem pooled_agrees_direct (single : config.isClusterConnection = false)
    (usable : ∀ pooling, ¬(config.withPooling pooling).Unusable) (accepting : Accepting net config)
    (accepting' : Accepting net' config) (requests : List Request)
    (prompt : ∀ q ∈ requests, q.Prompt config.readLimit) :
    ∃ direct pooled,
      (connect net (config.withPooling false)).value = .ok direct ∧
      direct.mode = .standaloneDirect ∧
      (connect net' (config.withPooling true)).value = .ok pooled ∧
      pooled.mode = .standalonePooled ∧
      seen ((start direct).run (requests.map Request.step)) =
        requests.map (Request.expected config.readLimit) ∧
      seen ((start pooled).run (requests.map Request.step)) =
        seen ((start direct).run (requests.map Request.step)) := by
  obtain ⟨direct, connected, mode, expected⟩ :=
    connect_expected (usable false) single accepting requests prompt
  obtain ⟨pooled, connected', mode', expected'⟩ :=
    connect_expected (usable true) single accepting' requests prompt
  exact ⟨direct, pooled, connected, mode, connected', mode', expected,
    expected'.trans expected.symm⟩

/-- An answer that takes a while, a key that is refused, an error, and an abrupt end. -/
theorem pooled_agrees_direct_mixed :
    let config : Config := { host := "cache", connectionTimeout := 1000, pool := { minIdle := 3 } }
    let requests : List Request :=
      [⟨⟨.get, "key", ()⟩, .simple "value", 900000000⟩,
        ⟨⟨.get, "", ()⟩, .nil, 0⟩,
        ⟨⟨.lpop, "key", ()⟩, .error ⟨"WRONGTYPE", none⟩, 0⟩,
        ⟨⟨.blpop, 5, ["jobs"], ()⟩, .map [], 5500000000⟩]
    ∃ direct pooled,
      (connect .obliging (config.withPooling false)).value = .ok direct ∧
      (connect .obliging (config.withPooling true)).value = .ok pooled ∧
      seen ((start pooled).run (requests.map Request.step)) =
        seen ((start direct).run (requests.map Request.step)) ∧
      (seen ((start direct).run (requests.map Request.step))).map Prod.snd =
        [[["GET", "key"]], [], [["LPOP", "key"]], [["BLPOP", "jobs", "5"]]] := by
  intro config requests
  have usable : ∀ pooling, ¬(config.withPooling pooling).Unusable := by decide +kernel
  have accepting : Accepting .obliging config := by
    intro a listed n
    exact ⟨_, rfl⟩
  obtain ⟨direct, pooled, connected, -, connected', -, expected, agrees⟩ :=
    pooled_agrees_direct rfl usable accepting accepting requests (by decide +kernel)
  refine ⟨direct, pooled, connected, connected', agrees, ?_⟩
  rw [expected]
  decide +kernel

end Session

end RedisClient
