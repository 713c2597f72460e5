import RedisClient.Proofs.Reply.Forms
import RedisClient.Proofs.Session.Classification

/-!
# Calls and the form of their replies

A session looks at a reply only to read the outcome of the call from it: with two replies from which
the same outcome is read, the call has the same report, in whatever state the session is
(`indistinguishable`). The two forms in which an aggregate can come are such replies
(`forms_indistinguishable`). `Ends` says how a call ends that hears of a reply.
-/

namespace RedisClient

namespace Connection

variable {c : Connection} {timeout : Option Duration} {setup : List Greeting} {r r' : Reply}

/-- Of two reads, what others can see is the same, unless each came to the reply of its own side. -/
structure Read.Swapped (r r' : Reply) (read read' : Read) : Prop where
  result : read.result = .ok r ∧ read'.result = .ok r' ∨ read.result = read'.result
  isOpen : read.connection.isOpen = read'.connection.isOpen

theorem Read.Swapped.refl (read : Read) : read.Swapped r r' read := ⟨.inr rfl, rfl⟩

/-- What the last reply holds does not matter to anything but the result. -/
theorem readFrom_swapped (r r' : Reply) (time : Nat) (inbox : List Arrival) (now skip : Nat) :
    (readFrom timeout setup now skip (inbox ++ [⟨time, .reply r⟩])).Swapped r r'
      (readFrom timeout setup now skip (inbox ++ [⟨time, .reply r'⟩])) := by
  induction inbox generalizing now skip with
  | nil =>
    simp only [List.nil_append]
    cases late : tooLate timeout now time with
    | true =>
      have read (r : Reply) : readFrom timeout setup now skip [⟨time, .reply r⟩] = _ :=
        readFrom_late late
      rw [read, read]
      exact ⟨.inr rfl, rfl⟩
    | false =>
      cases skip with
      | zero =>
        have read (r : Reply) : readFrom timeout setup now 0 [⟨time, .reply r⟩] = _ :=
          readFrom_reply late rfl
        rw [read, read]
        exact ⟨.inl ⟨rfl, rfl⟩, rfl⟩
      | succ skip =>
        have read (r : Reply) : readFrom timeout setup now (skip + 1) [⟨time, .reply r⟩] = _ :=
          readFrom_skip late rfl
        rw [read, read]
        exact .refl _
  | cons a inbox ih =>
    rw [List.cons_append, List.cons_append]
    cases late : tooLate timeout now a.time with
    | true =>
      rw [readFrom_late late, readFrom_late late]
      exact ⟨.inr rfl, rfl⟩
    | false =>
      cases reaction : a.reaction with
      | hangUp =>
        rw [readFrom_hangUp late reaction, readFrom_hangUp late reaction]
        exact ⟨.inr rfl, rfl⟩
      | reply _ =>
        cases skip with
        | zero =>
          rw [readFrom_reply late reaction, readFrom_reply late reaction]
          exact ⟨.inr rfl, rfl⟩
        | succ skip =>
          rw [readFrom_skip late reaction, readFrom_skip late reaction]
          exact ih _ _

theorem send_swapped (c : Connection) (now delay : Nat) (r r' : Reply) :
    ((c.send now ⟨.reply r, delay⟩).read now).Swapped r r'
      ((c.send now ⟨.reply r', delay⟩).read now) := by
  simp only [send]
  split
  · exact .refl _
  · exact readFrom_swapped r r' (c.serverFree now + delay) c.inbox now c.skip

end Connection

namespace Connector

variable {call : Call} {r r' : Reply}

/-- Of two calls that were run, what others can see is the same. -/
structure Ran.Same (ran ran' : Ran) : Prop where
  outcome : ran.outcome = ran'.outcome
  sent : ran.sent = ran'.sent
  events : ran.events = ran'.events
  isOpen : ran.connection.isOpen = ran'.connection.isOpen

theorem Ran.Same.refl (ran : Ran) : ran.Same ran := ⟨rfl, rfl, rfl, rfl⟩

theorem query_same (alike : outcomeOf call.method.spec.shape (.ok r) =
      outcomeOf call.method.spec.shape (.ok r')) (pooled : Bool) (c : Connection) (now delay : Nat) :
    (query pooled c now call ⟨.reply r, delay⟩).Same
      (query pooled c now call ⟨.reply r', delay⟩) := by
  unfold query Connection.exchange
  split
  · have swapped := c.send_swapped now delay r r'
    refine ⟨?_, rfl, rfl, swapped.isOpen⟩
    show outcomeOf call.method.spec.shape ((c.send now ⟨.reply r, delay⟩).read now).result =
      outcomeOf call.method.spec.shape ((c.send now ⟨.reply r', delay⟩).read now).result
    rcases swapped.result with ⟨own, own'⟩ | same
    · rw [own, own', alike]
    · rw [same]
  · exact .refl _

theorem runOn_same (alike : outcomeOf call.method.spec.shape (.ok r) =
      outcomeOf call.method.spec.shape (.ok r')) (c : Connection) (pooled : Bool)
    (base : Option Duration) (now delay : Nat) :
    (runOn c pooled base now call ⟨.reply r, delay⟩).Same
      (runOn c pooled base now call ⟨.reply r', delay⟩) := by
  unfold runOn
  split
  · exact .refl _
  · split
    · exact query_same alike pooled c now delay
    · split
      · exact .refl _
      · rename_i limit _
        have same := query_same alike pooled { c with readTimeout := limit } now delay
        exact ⟨same.outcome, same.sent, same.events, same.isOpen⟩

end Connector

def Method.collectors : List Method :=
  [.smembers, .sdiff, .sinter, .sunion, .lrange, .mget, .hmget, .hkeys, .hvals, .zrange, .zrangebylex,
    .zrangebyscore, .zrevrange, .zrevrangebylex, .zrevrangebyscore, .spopCount, .srandmember, .keys,
    .sort]

theorem Method.mem_collectors {m : Method} : m ∈ collectors ↔ m.spec.shape.Collects := by
  cases m <;> decide

namespace Session

open Connector

variable {call : Call} {r r' : Reply}

/-- A pool has as many connections in use after it has got one back, whatever this one was used for. -/
theorem giveBack_inUse? {c c' : Connection} (isOpen : c.isOpen = c'.isOpen) (s : Session) :
    (s.giveBack c).inUse? = (s.giveBack c').inUse? := by
  have keeps : s.connector.pool.keeps c = s.connector.pool.keeps c' := by
    simp only [Pool.keeps, isOpen]
  have state : (s.connector.pool.giveBack s.connector.opener c).state =
      (s.connector.pool.giveBack s.connector.opener c').state := by
    cases kept : s.connector.pool.keeps c' with
    | true => simp only [Pool.giveBack, keeps.trans kept, kept, if_true, Pool.state, Pool.size,
        List.length_cons]
    | false => simp only [Pool.giveBack, keeps.trans kept, kept, Bool.false_eq_true, if_false]
  exact congrArg (fun state => (if s.connector.mode.isPooled then some state else none).map
    PoolState.inUse) state

/-- In every state of a session, the call has the same report with either reply. -/
def Indistinguishable (call : Call) (r r' : Reply) : Prop :=
  ∀ (s : Session) (slot : Option Nat) (delay : Nat),
    (s.step (.call slot call ⟨.reply r, delay⟩)).1 = (s.step (.call slot call ⟨.reply r', delay⟩)).1

theorem indistinguishable (alike : outcomeOf call.method.spec.shape (.ok r) =
    outcomeOf call.method.spec.shape (.ok r')) : Indistinguishable call r r' := by
  intro s slot delay
  simp only [step, act_call]
  cases s.handle slot with
  | error refused => rfl
  | ok got =>
    obtain ⟨c, s⟩ := got
    have same := runOn_same alike c s.connector.mode.isPooled s.connector.readTimeout s.now delay
    have report : (s.runOn c call ⟨.reply r, delay⟩).1 = (s.runOn c call ⟨.reply r', delay⟩).1 := by
      simp only [runOn, same.outcome, same.sent, same.events]
    have inUse : (s.runOn c call ⟨.reply r, delay⟩).2.inUse? =
        (s.runOn c call ⟨.reply r', delay⟩).2.inUse? := giveBack_inUse? same.isOpen s
    have isClosed : (s.runOn c call ⟨.reply r, delay⟩).2.isClosed =
        (s.runOn c call ⟨.reply r', delay⟩).2.isClosed := rfl
    simp only [report, inUse, isClosed]

/-! ## Single replies -/

/-- In every session, a valid call ends like this if it hears of the reply. -/
def Ends (call : Call) (r : Reply) (outcome : Outcome) : Prop :=
  ∀ (net : Network) (config : Config) (connector : Connector),
    (connect net config).value = .ok connector → ∀ (ts : List Step) (slot : Option Nat) c s',
      ((start connector).run ts).2.handle slot = .ok (c, s') → call.Valid config.readLimit →
        ∀ limit, limit? config.readLimit call = some limit → ∀ delay,
          ({ c with readTimeout := limit } : Connection).Hears s'.now ⟨.reply r, delay⟩ →
            (((start connector).run ts).2.step (.call slot call ⟨.reply r, delay⟩)).1.result =
              .called outcome

/-- A call ends with the outcome that is read from the reply. -/
theorem ends_outcomeOf (call : Call) (r : Reply) :
    Ends call r (outcomeOf call.method.spec.shape (.ok r)) := by
  intro net config connector connected ts slot c s' got valid limit inForce delay heard
  obtain ⟨f, connected⟩ := connect_ok connected
  obtain ⟨inOrder, -⟩ := run_inOrder connected ts
  obtain ⟨⟨usual, settled⟩, settings⟩ := handle_every (new_inOrder connected) inOrder got
  rw [← connected.readTimeout_eq] at inForce
  obtain ⟨report, -⟩ := call_ran got settings call ⟨.reply r, delay⟩
  rw [step_result, report, runOn_reply valid.fine usual inForce settled heard rfl]

/-- What is taken out of a reply without errors is the answer. -/
theorem ends_of_ok {a : Answer} (clean : r.errors = [])
    (value : call.method.spec.shape.ofValue r = .ok a) : Ends call r (.answer a) := by
  have fine : ¬(call.method.spec.shape = .optionalPair ∧ r = .map []) := by
    rintro ⟨pair, rfl⟩
    rw [pair] at value
    cases value
  rcases outcomeOf_of_value clean fine with ⟨a', value', eq⟩ | ⟨f, value', -⟩
  · rw [value] at value'
    cases value'
    exact eq ▸ ends_outcomeOf call r
  · rw [value] at value'
    cases value'

/-- If nothing can be taken out of a reply without errors, this is a complaint that callers do not
expect. -/
theorem ends_unexpected (clean : r.errors = [])
    (none : ∀ a, call.method.spec.shape.ofValue r ≠ .ok a) (fine : ∀ entries, r ≠ .map entries) :
    ∃ message, Ends call r (.error (.unexpected message)) := by
  rcases outcomeOf_of_value clean (fun crash => fine [] crash.2) with ⟨a, value, -⟩ | ⟨f, -, eq⟩
  · exact absurd value (none a)
  · exact ⟨_, eq ▸ ends_outcomeOf call r⟩

/-! ## Forms of aggregates -/

/-- Elements come to the same in an array and in a set, for every method that returns a set or a list of
texts: whatever they are, the call has the same report. So do the keys and values of a dictionary in a map
and in an array. A key without a value is a complaint. -/
theorem forms_indistinguishable :
    (∀ call : Call, call.method ∈ Method.collectors → ∀ items,
      Indistinguishable call (.array items) (.set items)) ∧
    (∀ key entries, Indistinguishable ⟨.hgetall, key, ()⟩ (.map entries)
      (.array (Reply.alternate entries))) ∧
    ∀ key (items : List Reply), items.length % 2 = 1 → Reply.errorsIn items = [] →
      ∃ message, Ends ⟨.hgetall, key, ()⟩ (.array items) (.error (.unexpected message)) := by
  refine ⟨fun call collector items => ?_, fun key entries => ?_, fun key items odd clean => ?_⟩
  · refine indistinguishable ?_
    have collects := Method.mem_collectors.1 collector
    simp only [outcomeOf, collects.not_crashes, Shape.read_set collects]
  · refine indistinguishable ?_
    show outcomeOf .map _ = outcomeOf .map _
    simp only [outcomeOf, Shape.read_alternate]
    rfl
  · refine ends_unexpected (r := .array items) clean (fun a read => ?_) fun entries map => by cases map
    have failed := Shape.ofValue_odd odd
    rw [read] at failed
    cases failed

/-- Three elements are a set either way, and no dictionary. -/
theorem forms_indistinguishable_odd :
    let items : List Reply := [.ofText "a", .int 1, .ofText "a"]
    (Method.smembers ∈ Method.collectors ∧ items.length % 2 = 1 ∧ Reply.errorsIn items = []) ∧
    Indistinguishable ⟨.smembers, "s", ()⟩ (.array items) (.set items) ∧
    ∃ connector, (connect .obliging { host := "cache" }).value = .ok connector ∧
      ∃ message, ((start connector).step (.call none ⟨.hgetall, "h", ()⟩
        ⟨.reply (.array items), 0⟩)).1.result = .called (.error (.unexpected message)) := by
  intro items
  have collector : Method.smembers ∈ Method.collectors := by decide
  have odd : items.length % 2 = 1 := by decide
  have connected : (connect .obliging { host := "cache" }).value = .ok _ := rfl
  obtain ⟨message, ends⟩ := forms_indistinguishable.2.2 "h" items odd rfl
  refine ⟨⟨collector, odd, rfl⟩, forms_indistinguishable.1 _ collector items, _, connected,
    message, ?_⟩
  refine ends _ _ _ connected [] none _ _ rfl ⟨Call.refusal_none rfl, fun d n limit => by cases limit⟩
    none rfl 0 ?_
  exact (Connection.Clean.hears_iff ⟨rfl, rfl, rfl⟩).2 fun limit unlimited => by cases unlimited

end Session

end RedisClient
