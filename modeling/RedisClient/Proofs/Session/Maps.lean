import RedisClient.Proofs.Command.Maps
import RedisClient.Proofs.Reply.Texts
import RedisClient.Proofs.Session.Classification

/-!
# Dictionaries there and back

A dictionary is sent as pairs of words, in an order that nobody chooses. The order is of no account:
if the server gives the words back, or what it has stored because of them, the caller has the
dictionary again (`maps_kept`).
-/

namespace RedisClient.Session

open Connector

variable {call : Call} {reply : Reply} {answer : Answer}

/-- In every session, the call has this answer if it is given this reply and hears of it. -/
def Answered (call : Call) (reply : Reply) (answer : Answer) : Prop :=
  ∀ (net : Network) (config : Config) (connector : Connector),
    (connect net config).value = .ok connector → ∀ (ts : List Step) (slot : Option Nat) c s',
      ((start connector).run ts).2.handle slot = .ok (c, s') →
        ∀ delay, c.Hears s'.now ⟨.reply reply, delay⟩ →
          (((start connector).run ts).2.step (.call slot call ⟨.reply reply, delay⟩)).1.result =
            .called (.answer answer)

/-- The answer is what is read from a list without errors. -/
theorem answered {items : List Reply} (fine : call.refusal? = none)
    (short : call.blockSeconds? = none) (clean : Reply.errorsIn items = [])
    (value : call.method.spec.shape.ofValue (.array items) = .ok answer) :
    Answered call (.array items) answer := by
  intro net config connector connected ts slot c s' got delay heard
  obtain ⟨f, connected⟩ := connect_ok connected
  obtain ⟨inOrder, -⟩ := run_inOrder connected ts
  obtain ⟨ordered, settings⟩ := handle_every (new_inOrder connected) inOrder got
  obtain ⟨outcome, result, classified⟩ := call_classified got ordered settings fine
    (limit?_of_not_blocking short) ⟨.reply (.array items), delay⟩
  rw [restored ordered.readTimeout] at classified
  rw [step_result, result]
  rcases classified.read _ heard rfl clean (fun crash => by cases crash.2) with
    ⟨a, value', eq⟩ | ⟨f, value', -⟩
  · rw [value] at value'
    cases value'
    rw [eq]
  · rw [value] at value'
    cases value'

/-- The fields of a dictionary are taken from the words that were sent for them. -/
theorem hgetall_answered {fields : Dict String} {order : List (String × String)} {key : String}
    (same : order.Perm fields.entries) (named : key ≠ "") :
    Answered ⟨.hgetall, key, ()⟩ (.array ((pairWords order).map .ofText)) (.map fields) := by
  have fine : Call.refusal? ⟨.hgetall, key, ()⟩ = none := by
    refine Call.refusal_eq_none fun i kind fault => ?_
    cases i with
    | zero => exact named fault.1
    | succ i => exact fault
  refine answered fine rfl (Reply.errorsIn_map Reply.errors_ofText _) ?_
  show (Reply.toTextMap _).map Answer.map = _
  rw [Reply.toTextMap_pairWords same]
  rfl

/-- The values of keys are taken from what the server has under each of them. -/
theorem mget_answered {stored : String → Option String} {ks : List String} (some : ks ≠ [])
    (named : "" ∉ ks) : Answered ⟨.mget, ks, ()⟩
      (.array (ks.map fun k => .ofMaybe (stored k))) (.maybeTexts (ks.map stored)) := by
  have fine : Call.refusal? ⟨.mget, ks, ()⟩ = none := by
    refine Call.refusal_eq_none fun i kind fault => ?_
    cases i with
    | zero => exact fault.1.elim some named
    | succ i => exact fault
  refine answered fine rfl (Reply.errorsIn_map (fun k => Reply.errors_ofMaybe (stored k)) ks) ?_
  show (Reply.toList (Reply.toOption Reply.toText) _).map Answer.maybeTexts = _
  rw [← Function.comp_def, ← List.map_map, Reply.toList_ofMaybe]
  rfl

/-- Commands that take a dictionary are written alike in every order of its entries. What `hmset`
has sent is the dictionary again for `hgetall`, and what `mset` and `msetnx` have stored is found
again by `mget`. -/
theorem maps_kept :
    (∀ {α : Type} (m : MapCommand α) (l order : List (String × α)),
      order.Perm (Dict.ofList l).entries → m.Written l order) ∧
    (∀ (fields : Dict String) (order : List (String × String)) (key : String),
      order.Perm fields.entries → fields.entries ≠ [] → key ≠ "" →
        ∃ args, (MapCommand.hmset key).write order = .ok ("HMSET" :: key :: args) ∧
          ∀ place, place ≠ "" →
            Answered ⟨.hgetall, place, ()⟩ (.array (args.map .ofText)) (.map fields)) ∧
    ∀ (d : Dict String) (order : List (String × String)),
      order.Perm d.entries → d.entries ≠ [] → "" ∉ d.keys →
        ∃ args, MapCommand.mset.write order = .ok ("MSET" :: args) ∧
          MapCommand.msetnx.write order = .ok ("MSETNX" :: args) ∧
          ∀ ks, ks ≠ [] → "" ∉ ks →
            Answered ⟨.mget, ks, ()⟩ (.array (ks.map fun k => .ofMaybe (storedUnder k args)))
              (.maybeTexts (ks.map d.get?)) := by
  refine ⟨fun m l order => m.written, ?_, ?_⟩
  · intro fields order key same several named
    have several : order ≠ [] := fun none => several (List.Perm.eq_nil (none ▸ same.symm))
    have fine : (MapCommand.hmset key).Fine order := ⟨named, several⟩
    exact ⟨pairWords order, MapCommand.write_fine fine, fun place => hgetall_answered same⟩
  · intro d order same several named
    have several : order ≠ [] := fun none => several (List.Perm.eq_nil (none ▸ same.symm))
    have named : ∀ entry ∈ order, entry.1 ≠ "" := fun entry mem empty =>
      named (List.mem_map.2 ⟨entry, same.mem_iff.1 mem, empty⟩)
    have stored (k : String) : storedUnder k (pairWords order) = d.get? k := by
      rw [storedUnder_pairWords, Dict.ofList_perm same]
    have mset : MapCommand.mset.Fine order := ⟨several, named⟩
    have msetnx : MapCommand.msetnx.Fine order := ⟨several, named⟩
    refine ⟨pairWords order, MapCommand.write_fine mset, MapCommand.write_fine msetnx, ?_⟩
    intro ks some named
    simp only [stored]
    exact mget_answered some named

/-- Of two values for a field the later one is sent and given back, also when the fields are not
sent in their order. -/
theorem maps_kept_reordered :
    let fields : Dict String := .ofList [("a", "1"), ("b", "2"), ("a", "3")]
    (MapCommand.hmset "h").write [("b", "2"), ("a", "3")] =
      .ok ["HMSET", "h", "b", "2", "a", "3"] ∧
    ∃ connector, (connect .obliging { host := "cache" }).value = .ok connector ∧
      ((start connector).step (.call none ⟨.hgetall, "h", ()⟩
        ⟨.reply (.array (["b", "2", "a", "3"].map .ofText)), 0⟩)).1.result =
        .called (.answer (.map fields)) := by
  intro fields
  obtain ⟨args, sent, read⟩ := maps_kept.2.1 fields [("b", "2"), ("a", "3")] "h" (.swap _ _ _)
    (by decide) (by decide)
  obtain rfl : ["b", "2", "a", "3"] = args := by
    cases sent
    rfl
  have connected : (connect .obliging { host := "cache" }).value = .ok _ := rfl
  refine ⟨sent, _, connected, read "h" (by decide) _ _ _ connected [] none _ _ rfl 0 ?_⟩
  exact (Connection.Clean.hears_iff ⟨rfl, rfl, rfl⟩).2 fun limit unlimited => by cases unlimited

end RedisClient.Session
