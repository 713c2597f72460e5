import RedisClient.Proofs.Reply.Texts

/-!
# Bytes of bulk replies

A text is taken out of a bulk reply if the bytes are those of the text, and out of nothing else
(`Reply.toText_bulk`). For an array of bulk replies this holds element by element: a list, a set or a
dictionary is taken out if all elements are texts, and then it has these texts and no others
(`Shape.ofValue_texts`, `Shape.holds_of_ofValue`). `Shape.Holds` says in which way an answer has them.
-/

namespace RedisClient

namespace Reply

variable {bytes : ByteArray} {items : List ByteArray} {s : String} {ss : List String}

def bulks (items : List ByteArray) : List Reply := items.map bulk

theorem decodeText_eq_ok {failure : Failure} :
    decodeText failure bytes = .ok s ↔ s.toByteArray = bytes := by
  unfold decodeText String.fromUTF8?
  by_cases valid : bytes.IsValidUTF8
  · rw [dif_pos valid, Option.elim_some, Except.ok.injEq, ← String.toByteArray_inj]
    exact eq_comm
  · rw [dif_neg valid, Option.elim_none]
    constructor
    · intro failed
      cases failed
    · rintro rfl
      exact absurd s.isValidUTF8 valid

theorem toText_bulk : (bulk bytes).toText = .ok s ↔ s.toByteArray = bytes := decodeText_eq_ok

theorem toOption_bulk {value : Option String} : (bulk bytes).toOption toText = .ok value ↔
    ∃ s, value = some s ∧ s.toByteArray = bytes := by
  show (bulk bytes).toText.map some = .ok value ↔ _
  rw [Results.map_eq_ok]
  exact exists_congr fun s => by rw [toText_bulk, and_comm, eq_comm]

theorem toEntry_bulk {key value : ByteArray} {entry : String × String} :
    toEntry (bulk key, bulk value) = .ok entry ↔
      entry.1.toByteArray = key ∧ entry.2.toByteArray = value := by
  rw [← toText_bulk, ← toText_bulk, toEntry]
  cases (bulk key).toText with
  | error f => simp
  | ok s => cases (bulk value).toText <;> simp [Prod.ext_iff]

/-! ## Arrays -/

theorem toTexts_bulks :
    (bulks items).mapM toText = .ok ss ↔ items = ss.map String.toByteArray := by
  simp only [bulks, Results.mapM_eq_ok, List.forall₂_map_left_iff, toText_bulk]
  rw [← List.forall₂_eq_eq_eq, List.forall₂_map_right_iff]
  simp only [eq_comm]

theorem toMaybeTexts_bulks {values : List (Option String)} :
    (bulks items).mapM (toOption toText) = .ok values ↔
      ∃ ss : List String, values = ss.map some ∧ items = ss.map String.toByteArray := by
  simp only [bulks, Results.mapM_eq_ok, List.forall₂_map_left_iff, toOption_bulk]
  constructor
  · intro all
    induction all with
    | nil => exact ⟨[], rfl, rfl⟩
    | cons first _ ih =>
      obtain ⟨s, rfl, rfl⟩ := first
      obtain ⟨ss, rfl, rfl⟩ := ih
      exact ⟨s :: ss, rfl, rfl⟩
  · rintro ⟨ss, rfl, rfl⟩
    rw [List.forall₂_map_left_iff, List.forall₂_map_right_iff, List.forall₂_same]
    exact fun s _ => ⟨s, rfl, rfl⟩

theorem pairs?_eq_some {α : Type} : ∀ {l : List α} {entries : List (α × α)},
    pairs? l = some entries → l = alternate entries
  | [], _, h => by
    cases h
    rfl
  | [_], _, h => by cases h
  | a :: b :: rest, entries, h => by
    obtain ⟨others, paired, rfl⟩ := Option.map_eq_some_iff.1 h
    rw [pairs?_eq_some paired]
    rfl

/-- Keys and values are taken out of an array of even length if all of them are texts. -/
theorem toTextMap_bulks {d : Dict String} : (array (bulks items)).toTextMap = .ok d ↔
    ∃ entries, d = Dict.ofList entries ∧ items = (pairWords entries).map String.toByteArray := by
  constructor
  · intro read
    simp only [toTextMap, bulks, pairs?_map] at read
    cases paired : pairs? items with
    | none =>
      rw [paired] at read
      cases read
    | some pairs =>
      simp only [paired, Option.map_some] at read
      cases all : (pairs.map (Prod.map bulk bulk)).mapM toEntry with
      | error f =>
        rw [all] at read
        cases read
      | ok entries =>
        rw [all] at read
        cases read
        refine ⟨entries, rfl, ?_⟩
        rw [pairs?_eq_some paired]
        rw [Results.mapM_eq_ok, List.forall₂_map_left_iff] at all
        clear paired
        induction all with
        | nil => rfl
        | @cons pair entry _ _ first _ ih =>
          obtain ⟨key, value⟩ := toEntry_bulk.1 first
          show pair.1 :: pair.2 :: alternate _ = entry.1.toByteArray :: entry.2.toByteArray :: _
          rw [key, value, ih]
          rfl
  · rintro ⟨entries, rfl, rfl⟩
    have texts : bulks ((pairWords entries).map String.toByteArray) =
        (pairWords entries).map ofText := List.map_map
    simp only [toTextMap, texts, pairs?_map, pairs?_pairWords, Option.map_some]
    rw [Results.mapM_map toEntry_ofText]
    rfl

end Reply

namespace Shape

/-- The answer has these texts, each as it is, and no others; of two values for a key of a dictionary it
has the later one. -/
inductive Holds (ss : List String) : Shape → Answer → Prop
  | texts : Holds ss texts (.texts ss)
  | maybeTexts : Holds ss maybeTexts (.maybeTexts (ss.map some))
  | set {d : Dict Unit} (members : ∀ t, t ∈ d.keys ↔ t ∈ ss) : Holds ss set (.set d)
  | map {d : Dict String} {entries : List (String × String)} (words : ss = pairWords entries)
    (last : ∀ e, e ∈ d.entries ↔ Dict.LastIn e entries) : Holds ss map (.map d)

variable {shape : Shape} {bytes : ByteArray} {items : List ByteArray} {ss : List String} {a : Answer}

/-- A text is taken out of a bulk reply if it has the bytes of the reply. -/
theorem ofValue_bulk (textual : shape = .text ∨ shape = .optionalText) :
    shape.ofValue (.bulk bytes) = .ok a ↔ ∃ s : String, s.toByteArray = bytes ∧ a = .text s := by
  rcases textual with rfl | rfl
  · show (Reply.bulk bytes).toText.map Answer.text = .ok a ↔ _
    rw [Results.map_eq_ok]
    exact exists_congr fun s => by rw [Reply.toText_bulk, eq_comm (a := a)]
  · show ((Reply.bulk bytes).toOption Reply.toText).map (optional .text) = .ok a ↔ _
    rw [Results.map_eq_ok]
    constructor
    · rintro ⟨value, read, rfl⟩
      obtain ⟨s, rfl, eq⟩ := Reply.toOption_bulk.1 read
      exact ⟨s, eq, rfl⟩
    · rintro ⟨s, eq, rfl⟩
      exact ⟨some s, Reply.toOption_bulk.2 ⟨s, rfl, eq⟩, rfl⟩

/-- What is taken out of an array of bulk replies are the texts that their bytes stand for. -/
theorem holds_of_ofValue (gathers : shape.Collects ∨ shape = .map)
    (read : shape.ofValue (.array (Reply.bulks items)) = .ok a) :
    ∃ ss : List String, items = ss.map String.toByteArray ∧ Holds ss shape a := by
  rcases gathers with (rfl | rfl | rfl) | rfl
  · obtain ⟨d, collected, rfl⟩ := Results.map_eq_ok.1 read
    obtain ⟨ss, all, rfl⟩ := Results.map_eq_ok.1 collected
    refine ⟨ss, Reply.toTexts_bulks.1 all, .set fun t => ?_⟩
    rw [Dict.mem_keys_ofList]
    simp
  · obtain ⟨ss, all, rfl⟩ := Results.map_eq_ok.1 read
    exact ⟨ss, Reply.toTexts_bulks.1 all, .texts⟩
  · obtain ⟨values, all, rfl⟩ := Results.map_eq_ok.1 read
    obtain ⟨ss, rfl, eq⟩ := Reply.toMaybeTexts_bulks.1 all
    exact ⟨ss, eq, .maybeTexts⟩
  · obtain ⟨d, all, rfl⟩ := Results.map_eq_ok.1 read
    obtain ⟨entries, rfl, eq⟩ := Reply.toTextMap_bulks.1 all
    exact ⟨_, eq, .map rfl fun e => Dict.mem_ofList⟩

/-- Texts are taken out of their bytes; if they are to be keys and values, none may be left over. -/
theorem ofValue_texts (gathers : shape.Collects ∨ shape = .map ∧ ss.length % 2 = 0) :
    ∃ a, shape.ofValue (.array (Reply.bulks (ss.map String.toByteArray))) = .ok a := by
  rcases gathers with (rfl | rfl | rfl) | ⟨rfl, even⟩
  · refine ⟨_, Results.map_eq_ok.2 ⟨_, Results.map_eq_ok.2 ⟨ss, ?_, rfl⟩, rfl⟩⟩
    exact Reply.toTexts_bulks.2 rfl
  · exact ⟨_, Results.map_eq_ok.2 ⟨ss, Reply.toTexts_bulks.2 rfl, rfl⟩⟩
  · exact ⟨_, Results.map_eq_ok.2 ⟨_, Reply.toMaybeTexts_bulks.2 ⟨ss, rfl, rfl⟩, rfl⟩⟩
  · cases paired : Reply.pairs? ss with
    | none =>
      have odd := Reply.pairs?_eq_none.1 paired
      omega
    | some entries =>
      rw [Reply.pairs?_eq_some paired]
      exact ⟨_, Results.map_eq_ok.2 ⟨_, Reply.toTextMap_bulks.2 ⟨entries, rfl, rfl⟩, rfl⟩⟩

end Shape

end RedisClient
