import RedisClient.Proofs.Connector.Password
import RedisClient.Proofs.Session.Run

/-!
# Secrets in a session

Sessions on connectors that are alike stay alike, step by step (`act_alike`, `run_alike`): they
leave the same reports, and the set-ups that they tell of differ in the password only. That the list
of set-ups is kept in order does not give the password away either, as an `AUTH` is never
compared with anything but itself or a command of another name (`WordsAlike.lt_iff`).
-/

namespace RedisClient

variable {p p' : String}

/-! ## Reported set-ups -/

/-- The words of two greetings: the same and no `AUTH`, or each the `AUTH` of its own password. -/
inductive WordsAlike (p p' : String) : List String → List String → Prop
  | auth : WordsAlike p p' ["AUTH", p] ["AUTH", p']
  | same (words : List String) (other : words.head? ≠ some "AUTH") : WordsAlike p p' words words

abbrev SetupsAlike (p p' : String) : List (List String) → List (List String) → Prop :=
  List.Forall₂ (WordsAlike p p')

namespace WordsAlike

variable {v v' w w' : List String}

theorem lt_iff (hv : WordsAlike p p' v v') (hw : WordsAlike p p' w w') : v' < w' ↔ v < w := by
  cases hv with
  | auth =>
    cases hw with
    | auth => simp
    | same _ other =>
      cases w with
      | nil => simp
      | cons head rest =>
        have ne : "AUTH" ≠ head := fun eq => other (congrArg some eq.symm)
        simp only [List.cons_lt_cons_iff, ne, false_and, or_false]
  | same _ other =>
    cases hw with
    | auth =>
      cases v with
      | nil => simp
      | cons head rest =>
        have ne : head ≠ "AUTH" := fun eq => other (congrArg some eq)
        simp only [List.cons_lt_cons_iff, ne, false_and, or_false]
    | same => rfl

theorem eq_iff (hv : WordsAlike p p' v v') (hw : WordsAlike p p' w w') : v' = w' ↔ v = w := by
  cases hv with
  | auth =>
    cases hw with
    | auth => simp
    | same _ other =>
      constructor <;> (rintro rfl; exact absurd rfl other)
  | same _ other =>
    cases hw with
    | auth => constructor <;> (rintro rfl; exact absurd rfl other)
    | same => rfl

end WordsAlike

namespace SetupsAlike

variable {a a' b b' : List (List String)}

theorem eq_iff (ha : SetupsAlike p p' a a') (hb : SetupsAlike p p' b b') : a' = b' ↔ a = b := by
  induction ha generalizing b b' with
  | nil => cases hb <;> simp
  | cons first rest ih =>
    cases hb with
    | nil => simp
    | cons first' rest' => simp only [List.cons.injEq, first.eq_iff first', ih rest']

theorem lt_iff (ha : SetupsAlike p p' a a') (hb : SetupsAlike p p' b b') : a' < b' ↔ a < b := by
  induction ha generalizing b b' with
  | nil => cases hb <;> simp
  | cons first rest ih =>
    cases hb with
    | nil => simp
    | cons first' rest' =>
      simp only [List.cons_lt_cons_iff, first.lt_iff first', first.eq_iff first', ih rest']

end SetupsAlike

theorem Connection.Alike.reportedSetup {c c' : Connection} (h : Connection.Alike p p' c c') :
    SetupsAlike p p' c.reportedSetup c'.reportedSetup := by
  refine List.rel_filterMap (fun g g' alike => ?_) h.setup
  cases alike with
  | auth => exact .some .auth
  | select database => exact .some (.same _ (by simp))
  | setInfo => exact .none
  | setName name => exact .some (.same _ (by simp))

theorem Session.addSetup_alike {a a' : List (List String)} {l l' : List (List (List String))}
    (new : SetupsAlike p p' a a') (h : List.Forall₂ (SetupsAlike p p') l l') :
    List.Forall₂ (SetupsAlike p p') (addSetup a l) (addSetup a' l') := by
  induction h with
  | nil => exact .cons new .nil
  | cons first rest ih =>
    simp only [addSetup, new.eq_iff first, new.lt_iff first]
    split
    · exact .cons first rest
    · split
      · exact .cons new (.cons first rest)
      · exact .cons first ih

/-! ## Connectors -/

namespace Connector

variable {c c' : Connector} {d d' : Connection}

theorem Alike.poolState? (h : Alike p p' c c') : c'.poolState? = c.poolState? := by
  rw [Connector.poolState?, Connector.poolState?, h.mode, h.pool.state]

theorem Alike.describe (h : Alike p p' c c') : c'.describe = c.describe := by
  unfold Connector.describe
  rw [h.poolState?, h.mode]

theorem Alike.exhausted (h : Alike p p' c c') (e : Pool.Exhausted) :
    c'.exhausted e = c.exhausted e := by
  rw [Connector.exhausted, Connector.exhausted, h.mode, h.maxWait]

/-- Alike connectors lend connections that are alike, or refuse with the same error. -/
theorem borrow_alike (h : Alike p p' c c') :
    Matched (fun refused refused' => refused'.1 = refused.1 ∧ Alike p p' refused.2 refused'.2)
      (fun lent lent' => Connection.Alike p p' lent.1 lent'.1 ∧ Alike p p' lent.2 lent'.2)
      c.borrow c'.borrow := by
  unfold borrow
  rcases (Pool.borrow_alike h.opens h.pool).cases with
    ⟨⟨d, q⟩, ⟨d', q'⟩, ok, ok', alike, pools⟩ | ⟨⟨e, q⟩, ⟨_, q'⟩, failed, failed', rfl, pools⟩
  · simp only [ok, ok']
    exact .ok ⟨alike, h.mode, pools, h.opens, h.readTimeout, h.maxWait⟩
  · simp only [failed, failed', h.exhausted]
    exact .error ⟨rfl, h.mode, pools, h.opens, h.readTimeout, h.maxWait⟩

theorem giveBack_alike (h : Alike p p' c c') (alike : Connection.Alike p p' d d') :
    Alike p p' (c.giveBack d) (c'.giveBack d') :=
  ⟨h.mode, Pool.giveBack_alike h.opens alike h.pool, h.opens, h.readTimeout, h.maxWait⟩

theorem close_alike (h : Alike p p' c c') (now : Nat) (response : Response) :
    c'.close now response = c.close now response := by
  have idle := h.pool.idle
  unfold close
  rw [h.mode]
  cases front : c.pool.idle with
  | nil =>
    rw [front, List.forall₂_nil_left_iff] at idle
    rw [idle]
  | cons d rest =>
    rw [front] at idle
    cases front' : c'.pool.idle with
    | nil =>
      rw [front'] at idle
      cases idle
    | cons d' rest' =>
      rw [front', List.forall₂_cons] at idle
      cases c.mode with
      | standaloneDirect => simp only [sayGoodbye_alike idle.1]
      | standalonePooled | clusterDirect | clusterPooled => rfl

end Connector

namespace Session

/-- Two sessions with connectors and held connections that are alike, which are the same in all else
but the password in the set-ups that they tell of. -/
structure Alike (p p' : String) (s s' : Session) : Prop where
  connector : Connector.Alike p p' s.connector s'.connector
  now : s'.now = s.now
  held : List.Forall₂ (fun x y => y.1 = x.1 ∧ Connection.Alike p p' x.2 y.2) s.held s'.held
  nextSlot : s'.nextSlot = s.nextSlot
  setups : List.Forall₂ (SetupsAlike p p') s.setups s'.setups
  isClosed : s'.isClosed = s.isClosed

variable {s s' : Session} {c c' : Connection}

theorem start_alike {c c' : Connector} (h : Connector.Alike p p' c c') :
    Alike p p' (start c) (start c') :=
  ⟨h, rfl, .nil, rfl, .nil, rfl⟩

/-! ## Slots -/

/-- A slot holds nothing in both sessions, or connections that are alike. -/
theorem inSlot?_alike (h : Alike p p' s s') (n : Nat) :
    (s.inSlot? n = none ∧ s'.inSlot? n = none) ∨
      ∃ c c', s.inSlot? n = some c ∧ s'.inSlot? n = some c' ∧ Connection.Alike p p' c c' := by
  have held := h.held
  unfold inSlot?
  generalize s.held = l at held
  generalize s'.held = l' at held
  induction held with
  | nil => exact .inl ⟨rfl, rfl⟩
  | cons first rest ih =>
    rename_i x y l l'
    obtain ⟨slot, alike⟩ := first
    by_cases found : x.1 = n
    · exact .inr ⟨x.2, y.2, by simp [found], by simp [slot, found], alike⟩
    · simpa [slot, found] using ih

theorem vacate_alike (h : Alike p p' s s') (n : Nat) : Alike p p' (s.vacate n) (s'.vacate n) := by
  refine ⟨h.connector, h.now, ?_, h.nextSlot, h.setups, h.isClosed⟩
  have held := h.held
  simp only [vacate]
  generalize s.held = l at held
  generalize s'.held = l' at held
  induction held with
  | nil => exact .nil
  | cons first rest ih =>
    simp only [List.filter_cons, first.1]
    split
    · exact .cons first ih
    · exact ih

theorem giveBack_alike (h : Alike p p' s s') (alike : Connection.Alike p p' c c') :
    Alike p p' (s.giveBack c) (s'.giveBack c') :=
  ⟨Connector.giveBack_alike h.connector alike, h.now, h.held, h.nextSlot, h.setups, h.isClosed⟩

theorem releaseAll_alike (h : Alike p p' s s') : Alike p p' s.releaseAll s'.releaseAll := by
  have held := h.held
  unfold releaseAll
  generalize s.held = l at held
  generalize s'.held = l' at held
  induction held generalizing s s' with
  | nil => exact h
  | cons first rest ih =>
    simp only [List.foldl_cons, first.1]
    exact ih (giveBack_alike (vacate_alike h _) first.2)

/-! ## Steps -/

theorem handle_alike (h : Alike p p' s s') (slot : Option Nat) :
    Matched (fun refused refused' => refused'.1 = refused.1 ∧
        Connector.Alike p p' refused.2 refused'.2)
      (fun got got' => Connection.Alike p p' got.1 got'.1 ∧ Alike p p' got.2 got'.2)
      (s.handle slot) (s'.handle slot) := by
  have fresh : Matched (fun refused refused' => refused'.1 = refused.1 ∧
        Connector.Alike p p' refused.2 refused'.2)
      (fun got got' => Connection.Alike p p' got.1 got'.1 ∧ Alike p p' got.2 got'.2)
      (s.handle none) (s'.handle none) := by
    simp only [handle, Option.bind_none]
    rcases (Connector.borrow_alike h.connector).cases with
      ⟨⟨d, q⟩, ⟨d', q'⟩, ok, ok', alike, connectors⟩ |
      ⟨⟨e, q⟩, ⟨_, q'⟩, failed, failed', rfl, connectors⟩
    · simp only [ok, ok']
      exact .ok ⟨alike, connectors, h.now, h.held, h.nextSlot, h.setups, h.isClosed⟩
    · simp only [failed, failed']
      exact .error ⟨rfl, connectors⟩
  cases slot with
  | none => exact fresh
  | some n =>
    rcases inSlot?_alike h n with ⟨empty, empty'⟩ | ⟨c, c', inSlot, inSlot', alike⟩
    · have vacant : s.Fresh (some n) := fun m eq => by cases eq; exact empty
      have vacant' : s'.Fresh (some n) := fun m eq => by cases eq; exact empty'
      rwa [handle_fresh vacant, handle_fresh vacant']
    · rw [handle_held inSlot, handle_held inSlot']
      exact .ok ⟨alike, vacate_alike h n⟩

theorem runOn_alike (h : Alike p p' s s') (alike : Connection.Alike p p' c c') (call : Call)
    (response : Response) : (s'.runOn c' call response).1 = (s.runOn c call response).1 ∧
      Alike p p' (s.runOn c call response).2 (s'.runOn c' call response).2 := by
  have ran := Connector.runOn_alike alike s.connector.mode.isPooled s.connector.readTimeout s.now
    call response
  obtain ⟨same, left⟩ := ran
  simp only [runOn, h.connector.mode, h.connector.readTimeout, h.now]
  rw [same]
  refine ⟨rfl, giveBack_alike ?_ left⟩
  refine ⟨h.connector, rfl, h.held, h.nextSlot, ?_, h.isClosed⟩
  dsimp only
  split
  · exact h.setups
  · exact addSetup_alike alike.reportedSetup h.setups

/-- A step of alike sessions leaves the same report, and leaves them alike. -/
theorem act_alike (h : Alike p p' s s') (t : Step) :
    (s'.act t).1 = (s.act t).1 ∧ Alike p p' (s.act t).2 (s'.act t).2 := by
  have refused {connector connector' : Connector} (alike : Connector.Alike p p' connector connector') :
      Alike p p' (waited { s with connector }) (waited { s' with connector := connector' }) := by
    refine ⟨alike, ?_, h.held, h.nextSlot, h.setups, h.isClosed⟩
    simp only [waited, h.now, alike.maxWait]
  cases t with
  | call slot call response =>
    rw [act_call, act_call]
    rcases (handle_alike h slot).cases with ⟨⟨c, s₁⟩, ⟨c', s₁'⟩, ok, ok', alike, left⟩ |
      ⟨⟨e, q⟩, ⟨_, q'⟩, failed, failed', rfl, alike⟩
    · simp only [ok, ok']
      exact runOn_alike left alike call response
    · -- the borrower waits for as long in both, so that the clocks stay equal
      simp only [failed, failed']
      exact ⟨trivial, refused alike⟩
  | hold =>
    simp only [act, hold]
    rcases (Connector.borrow_alike h.connector).cases with
      ⟨⟨c, q⟩, ⟨c', q'⟩, ok, ok', alike, connectors⟩ |
      ⟨⟨e, q⟩, ⟨_, q'⟩, failed, failed', rfl, connectors⟩
    · simp only [ok, ok', h.nextSlot]
      refine ⟨trivial, connectors, h.now, ?_, rfl, h.setups, h.isClosed⟩
      exact List.rel_append h.held (.cons ⟨rfl, alike⟩ .nil)
    · simp only [failed, failed']
      exact ⟨trivial, refused connectors⟩
  | release slot =>
    simp only [act, release]
    rcases inSlot?_alike h slot with ⟨empty, empty'⟩ | ⟨c, c', inSlot, inSlot', alike⟩
    · simp only [empty, empty']
      exact ⟨trivial, h⟩
    · simp only [inSlot, inSlot']
      exact ⟨trivial, giveBack_alike (vacate_alike h slot) alike⟩
  | describe =>
    refine ⟨?_, h⟩
    simp only [act, h.connector.describe]
  | close response =>
    have released := releaseAll_alike h
    simp only [act, close, released.now, Connector.close_alike released.connector]
    exact ⟨trivial, released.connector, rfl, released.held, released.nextSlot, released.setups, rfl⟩

theorem step_alike (h : Alike p p' s s') (t : Step) :
    (s'.step t).1 = (s.step t).1 ∧ Alike p p' (s.step t).2 (s'.step t).2 := by
  obtain ⟨report, alike⟩ := act_alike h t
  simp only [step, report, alike.isClosed, inUse?, alike.connector.poolState?]
  exact ⟨trivial, alike⟩

/-- So does a whole run. -/
theorem run_alike (h : Alike p p' s s') (ts : List Step) :
    (s'.run ts).1 = (s.run ts).1 ∧ Alike p p' (s.run ts).2 (s'.run ts).2 := by
  induction ts generalizing s s' with
  | nil => exact ⟨rfl, h⟩
  | cons t ts ih =>
    obtain ⟨report, alike⟩ := step_alike h t
    cases closed : (s.step t).2.isClosed with
    | true =>
      rw [run_cons_closed closed, run_cons_closed (alike.isClosed.trans closed), report]
      exact ⟨rfl, alike⟩
    | false =>
      obtain ⟨reports, left⟩ := ih alike
      rw [run_cons_open closed, run_cons_open (alike.isClosed.trans closed), report, reports]
      exact ⟨rfl, left⟩

/-! ## What calls log -/

variable {slot : Option Nat} {call : Call}

theorem handle_connector (got : s.handle slot = .ok (c, s')) :
    s'.connector.mode = s.connector.mode ∧ s'.connector.readTimeout = s.connector.readTimeout := by
  rcases handle_cases s slot with ⟨n, d, -, -, eq⟩ | ⟨-, d, q, -, eq⟩ | ⟨-, e, q, -, eq⟩ <;>
    rw [eq] at got <;> cases got <;> exact ⟨rfl, rfl⟩

/-- The events of a call that passes its checks tell the name of its command and whether it went
through a pool. -/
theorem call_events (fine : call.refusal? = none) (s : Session) (slot : Option Nat)
    (response : Response) : (s.step (.call slot call response)).1.events =
      if (s.handle slot).isOk && (Connector.limit? s.connector.readTimeout call).isSome then
        [.sending call.commandName s.connector.mode.isPooled]
      else [] := by
  rw [step_events, act_call]
  cases got : s.handle slot with
  | error e => rfl
  | ok pair =>
    obtain ⟨c, s'⟩ := pair
    obtain ⟨mode, readTimeout⟩ := handle_connector got
    simp only [runOn, Connector.runOn_events fine, mode, readTimeout]
    rfl

/-! ## Secrets -/

/-- Neither events nor reports depend on which password a configuration has, as long as it has one:
connecting logs the same and ends the same, all steps of a session come to the same reports, and the
set-ups that servers got differ only in the argument of `AUTH`. And the events of a call that passes
its checks tell the name of its command and whether it went through a pool, but nothing of its
arguments, or of what the server replied. -/
theorem secrets_kept (net : Network) (config : Config) (fine : Text.isBlankText p = false)
    (fine' : Text.isBlankText p' = false) :
    let connected := Connector.connect net (config.withPassword p)
    let connected' := Connector.connect net (config.withPassword p')
    connected'.events = connected.events ∧
    ((∃ e, connected.value = .error e ∧ connected'.value = .error e) ∨
      ∃ c c', connected.value = .ok c ∧ connected'.value = .ok c' ∧ ∀ ts,
        ((start c').run ts).1 = ((start c).run ts).1 ∧
        List.Forall₂ (SetupsAlike p p') ((start c).run ts).2.setups
          ((start c').run ts).2.setups) ∧
    ∀ (s : Session) slot method (args args' : Args method.spec.params) response response',
      (∀ i kind, ¬Call.FaultAt ⟨method, args⟩ i kind) →
      (∀ i kind, ¬Call.FaultAt ⟨method, args'⟩ i kind) →
      (Connector.limit? s.connector.readTimeout ⟨method, args⟩).isSome =
        (Connector.limit? s.connector.readTimeout ⟨method, args'⟩).isSome →
      let events := (s.step (.call slot ⟨method, args⟩ response)).1.events
      (s.step (.call slot ⟨method, args'⟩ response')).1.events = events ∧
      ∀ event ∈ events,
        event = .sending (method.spec.opening.headD "") s.connector.mode.isPooled := by
  refine ⟨?_, ?_, ?_⟩
  · exact (@Connector.connect_alike p p' { config with password := none } net rfl fine fine').1
  · have connected := (@Connector.connect_alike p p' { config with password := none } net rfl fine
      fine').2
    rcases connected.cases with ⟨c, c', ok, ok', alike⟩ | ⟨e, _, failed, failed', rfl⟩
    · refine .inr ⟨c, c', ok, ok', fun ts => ?_⟩
      obtain ⟨reports, left⟩ := run_alike (start_alike alike) ts
      exact ⟨reports, left.setups⟩
    · exact .inl ⟨e, failed, failed'⟩
  · intro s slot method args args' response response' faultless faultless' branch events
    have first := call_events (Call.refusal_eq_none faultless) s slot response
    have second := call_events (Call.refusal_eq_none faultless') s slot response'
    constructor
    · rw [second, ← branch]
      exact first.symm
    · intro event logged
      rw [show events = _ from first] at logged
      split at logged
      · exact List.mem_singleton.1 logged
      · cases logged

/-- Two passwords, and two keys. -/
theorem secrets_kept_two :
    let config : Config := { host := "cache" }
    let get (key : String) : Step := .call none ⟨.get, (key, ())⟩ ⟨.reply .nil, 0⟩
    ∃ c c', (Connector.connect .obliging (config.withPassword "one")).value = .ok c ∧
      (Connector.connect .obliging (config.withPassword "two")).value = .ok c' ∧
      ((start c').run [get "a"]).1 = ((start c).run [get "a"]).1 ∧
      ((start c).run [get "a"]).2.setups = [[["AUTH", "one"]]] ∧
      ((start c').run [get "a"]).2.setups = [[["AUTH", "two"]]] ∧
      ((start c).step (get "b")).1.events = ((start c).step (get "a")).1.events := by
  dsimp only
  obtain ⟨-, runs, calls⟩ := @secrets_kept "one" "two" .obliging { host := "cache" }
    (by decide +kernel) (by decide +kernel)
  rcases runs with ⟨e, failed, -⟩ | ⟨c, c', ok, ok', run⟩
  · cases failed
  · refine ⟨c, c', ok, ok', (run _).1, ?_, ?_, ?_⟩
    · cases ok
      rfl
    · cases ok'
      rfl
    · exact (calls (start c) none .get ("a", ()) ("b", ()) _ _ (Call.refusal_none rfl)
        (Call.refusal_none rfl) rfl).1

end Session

end RedisClient
