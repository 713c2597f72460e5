import Mathlib.Data.List.Nodup
import RedisClient.Dict

/-!
# Collecting entries

A dictionary collects a list of entries: of the entries for one key it has the last one
(`Dict.mem_ofList`). A dictionary is known from its entries in any order (`Dict.eq_of_perm`), and
they may be collected again in any order (`Dict.ofList_perm`).
-/

namespace RedisClient.Dict

variable {α : Type} {d d' : Dict α} {key : String} {value : α} {e : String × α}
  {l : List (String × α)}

@[ext] theorem ext (same : d.entries = d'.entries) : d = d' := by
  cases d
  cases d'
  cases same
  rfl

/-- A dictionary is known from its entries in any order. -/
theorem eq_of_perm (same : d.entries.Perm d'.entries) : d = d' := by
  refine ext (same.eq_of_pairwise (fun a b _ _ lt gt => ?_) d.sorted d'.sorted)
  exact absurd (String.lt_trans lt gt) (String.lt_irrefl a.1)

/-! ## Keys -/

theorem keys_nodup (d : Dict α) : (d.entries.map Prod.fst).Nodup := by
  rw [List.Nodup, List.pairwise_map]
  refine d.sorted.imp fun lt same => ?_
  rw [same] at lt
  exact String.lt_irrefl _ lt

theorem entries_nodup (d : Dict α) : d.entries.Nodup :=
  List.Nodup.of_map Prod.fst d.keys_nodup

/-- There is one entry for each key. -/
theorem get?_eq_some : d.get? key = some value ↔ (key, value) ∈ d.entries := by
  rw [get?, Option.map_eq_some_iff]
  constructor
  · rintro ⟨e, found, rfl⟩
    have same : e.1 = key := by simpa using List.find?_some found
    rw [← same]
    exact List.mem_of_find?_eq_some found
  · intro mem
    cases found : d.entries.find? (·.1 == key) with
    | none => exact absurd mem (by simpa using List.find?_eq_none.1 found (key, value))
    | some e =>
      have same : e.1 = key := by simpa using List.find?_some found
      have eq := List.inj_on_of_nodup_map d.keys_nodup (List.mem_of_find?_eq_some found) mem same
      exact ⟨e, rfl, congrArg Prod.snd eq⟩

/-! ## Lists of entries -/

theorem get?_foldl_put (l : List (String × α)) (d : Dict α) :
    (l.foldl (fun d e => d.put e.1 e.2) d).get? key = ((ofList l).get? key).or (d.get? key) := by
  induction l generalizing d with
  | nil => rfl
  | cons e l ih =>
    rw [ofList, List.foldl_cons, List.foldl_cons, ih, ih (d := empty.put e.1 e.2), Option.or_assoc,
      get?_put, get?_put, get?_empty]
    by_cases same : e.1 = key
    · rw [if_pos same, if_pos same, Option.some_or]
    · rw [if_neg same, if_neg same, Option.none_or]

/-- The entries after the first one count before it. -/
theorem get?_ofList_cons : (ofList (e :: l)).get? key =
    ((ofList l).get? key).or (if e.1 = key then some e.2 else none) := by
  rw [ofList, List.foldl_cons, get?_foldl_put, get?_put, get?_empty]

def LastIn (e : String × α) (l : List (String × α)) : Prop :=
  ∃ before after, l = before ++ e :: after ∧ ∀ later ∈ after, later.1 ≠ e.1

theorem lastIn_cons {first : String × α} : LastIn e (first :: l) ↔
    LastIn e l ∨ e = first ∧ ∀ later ∈ l, later.1 ≠ e.1 := by
  constructor
  · rintro ⟨before, after, eq, last⟩
    cases before with
    | nil =>
      cases eq
      exact .inr ⟨rfl, last⟩
    | cons b before =>
      cases eq
      exact .inl ⟨before, after, rfl, last⟩
  · rintro (⟨before, after, rfl, last⟩ | ⟨rfl, last⟩)
    · exact ⟨first :: before, after, rfl, last⟩
    · exact ⟨[], l, rfl, last⟩

theorem get?_ofList_eq_none : (ofList l).get? key = none ↔ ∀ e ∈ l, e.1 ≠ key := by
  induction l with
  | nil => simp [ofList, get?_empty]
  | cons e l ih =>
    rw [get?_ofList_cons, Option.or_eq_none_iff, ih, List.forall_mem_cons, and_comm]
    simp

theorem get?_ofList_eq_some : (ofList l).get? key = some value ↔ LastIn (key, value) l := by
  induction l with
  | nil => simp [ofList, get?_empty, LastIn]
  | cons e l ih =>
    rw [get?_ofList_cons, Option.or_eq_some_iff, ih, lastIn_cons, get?_ofList_eq_none]
    refine or_congr_right ?_
    rw [and_comm]
    refine and_congr_left fun _ => ?_
    by_cases same : e.1 = key
    · rw [if_pos same, Option.some_inj, Prod.ext_iff]
      simp [same, eq_comm]
    · rw [if_neg same, Prod.ext_iff]
      simp [Ne.symm same]

theorem mem_keys : key ∈ d.keys ↔ ∃ value, d.get? key = some value := by
  simp only [get?_eq_some, keys, List.mem_map]
  constructor
  · rintro ⟨e, mem, rfl⟩
    exact ⟨e.2, mem⟩
  · rintro ⟨value, mem⟩
    exact ⟨(key, value), mem, rfl⟩

/-- The keys of a dictionary are those of the entries that were collected. -/
theorem mem_keys_ofList : key ∈ (ofList l).keys ↔ ∃ e ∈ l, e.1 = key := by
  have absent : key ∉ (ofList l).keys ↔ ∀ e ∈ l, e.1 ≠ key := by
    rw [mem_keys, ← get?_ofList_eq_none, Option.eq_none_iff_forall_ne_some, not_exists]
  rw [← not_iff_not, absent]
  exact ⟨fun none ⟨e, mem, same⟩ => none e mem same, fun none e mem same => none ⟨e, mem, same⟩⟩

/-- The dictionary of a list has the last entry for each key. -/
theorem mem_ofList : e ∈ (ofList l).entries ↔ LastIn e l := by
  rw [← get?_ofList_eq_some, get?_eq_some]

/-- Of entries with different keys, each is the last one for its key. -/
theorem lastIn_of_nodup (nodup : (l.map Prod.fst).Nodup) : LastIn e l ↔ e ∈ l := by
  constructor
  · rintro ⟨before, after, rfl, -⟩
    simp
  · intro mem
    obtain ⟨before, after, rfl⟩ := List.append_of_mem mem
    refine ⟨before, after, rfl, fun later mem same => ?_⟩
    rw [List.map_append, List.map_cons] at nodup
    have first := (List.nodup_cons.1 (List.nodup_append.1 nodup).2.1).1
    exact first (List.mem_map.2 ⟨later, mem, same⟩)

theorem map_fst_nodup (order : l.Perm d.entries) : (l.map Prod.fst).Nodup :=
  (order.map Prod.fst).nodup_iff.2 d.keys_nodup

/-- The entries of a dictionary, in any order, are those of the dictionary again. -/
theorem ofList_perm (order : l.Perm d.entries) : ofList l = d := by
  apply eq_of_perm
  rw [List.perm_ext_iff_of_nodup (entries_nodup _) d.entries_nodup]
  intro e
  rw [mem_ofList, lastIn_of_nodup (map_fst_nodup order), order.mem_iff]

end RedisClient.Dict
