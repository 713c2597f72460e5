import Mathlib.Data.List.Nodup
import RedisClient.Proofs.Json.Values

/-!
# Reading records from any members

The members of an object come to a record (`Schema.Comes`) if no field comes twice, all required fields
come and all of their values are accepted; these are the objects that are read, whatever the values are
(`settle_eq_ok`). A list of field values is read as the object that gives them to the first fields
(`fill_eq_ok`). If the readers of the fields come to one result with each value, so does the reader of
the record (`read_decides`), and records within records can be dealt with in the same way.
-/

namespace RedisClient.Json

variable {α : Type} {schema : Schema α} {fields : List (Field α)} {f : Field α} {m : Member}
  {ms : List Member} {vs : List Value} {l s w rest : List Char} {seen : List String} {index : Nat}
  {first : Bool} {a b : α}

/-! ## Lists and objects as values -/

/-- What a list has between its brackets are values. -/
theorem Valid.elementsText (inside : Valid .elements l) : ∃ vs, ElementsText vs l := by
  generalize inElements : Part.elements = part at inside
  induction inside with
  | element before valid behind => exact ⟨[⟨_, valid⟩], .one before _ behind⟩
  | elements before valid behind _ _ ih =>
    obtain ⟨vs, others⟩ := ih inElements
    exact ⟨⟨_, valid⟩ :: vs, .more before _ behind others⟩
  | _ => cases inElements

theorem Valid.listText (valid : Valid .value ('[' :: s)) : ∃ vs, ListText vs ('[' :: s) := by
  generalize whole : '[' :: s = v at valid
  cases valid with
  | emptyList spaces => exact ⟨[], .empty spaces⟩
  | list inside =>
    obtain ⟨vs, elements⟩ := inside.elementsText
    exact ⟨vs, .elements elements⟩
  | number literal => exact absurd (whole ▸ literal).start (by decide)
  | _ => cases whole

theorem Valid.braced (valid : Valid .value ('\x7b' :: s)) :
    (∃ w, Spaces w ∧ s = w ++ ['\x7d']) ∨ ∃ l, Valid .members l ∧ s = l ++ ['\x7d'] := by
  generalize whole : '\x7b' :: s = v at valid
  cases valid with
  | emptyObject spaces =>
    cases whole
    exact .inl ⟨_, spaces, rfl⟩
  | object inside =>
    cases whole
    exact .inr ⟨_, inside, rfl⟩
  | number literal => exact absurd (whole ▸ literal).start (by decide)
  | _ => cases whole

theorem ElementsText.valid (elements : ElementsText vs l) : Valid .elements l := by
  induction elements with
  | one before v behind => exact .element before v.valid behind
  | more before v behind _ ih => exact .elements before v.valid behind ih

theorem ListText.valid (list : ListText vs l) : Valid .value l := by
  cases list with
  | empty spaces => exact .emptyList spaces
  | elements inside => exact .list inside.valid

theorem Spells.body {t body : List Char} (spelled : Spells t body) : Body body := by
  induction spelled with
  | nil => exact .nil
  | plain itself _ ih => exact .plain itself ih
  | short escape _ ih => exact .short (Option.isSome_iff_exists.2 ⟨_, escape⟩) ih
  | hex number _ ih => exact .hex number ih
  | pair _ high low _ ih => exact .hex high (.hex low ih)

theorem MembersText.valid (members : MembersText Member.key Member.Written ms l) :
    Valid .members l := by
  induction members with
  | @one m _ member =>
    obtain ⟨before, spelled, beforeColon, behindColon, rfl, behind⟩ := member
    exact .member before spelled.body beforeColon behindColon m.value.valid behind
  | @more m _ _ _ member _ ih =>
    obtain ⟨before, spelled, beforeColon, behindColon, rfl, behind⟩ := member
    simp only [List.append_assoc, List.cons_append]
    exact .members before spelled.body beforeColon behindColon m.value.valid behind ih

theorem ObjectText.valid (object : ObjectText Member.key Member.Written ms l) : Valid .value l := by
  cases object with
  | empty spaces => exact .emptyObject spaces
  | members inside => exact .object inside.valid

/-! ## Members -/

namespace Schema

variable (schema)

def effect (m : Member) : Except Fault (α → α) :=
  match schema.fields.find? (·.name == m.key) with
  | some f => alone f.read m.value.text
  | none => .ok id

/-- The record with the value of a member, if it has one for the record. -/
def put (m : Member) : α → α :=
  match schema.effect m with
  | .ok change => change
  | .error _ => id

/-- Every field comes to one result with each value. -/
def Decided : Prop := ∀ f ∈ schema.fields, Decides f.read

/-- Objects with any members, if each field comes to one result with each value. -/
def form (decided : schema.Decided) : Form schema Member where
  key := Member.key
  value := Member.Written
  effect := schema.effect
  understood m := by
    cases found : schema.fields.find? (·.name == m.key) with
    | some f =>
      refine .field found ?_
      rintro _ rfl
      rw [effect, found]
      exact decided f (List.mem_of_find?_eq_some found) m.value.valid
    | none =>
      refine .unknown found ?_ ?_
      · rw [effect, found]
      · rintro _ rfl
        exact m.value.valid

/-- The members that a list of field values stands for. -/
def members (vs : List Value) : List Member := schema.names.zipWith Member.mk vs

/-- Members come to a record: no field comes twice, all required fields come, and all values that come
for fields are put into the record. -/
structure Comes (ms : List Member) (a : α) : Prop where
  distinct : schema.Distinct (ms.map Member.key)
  complete : schema.Complete (ms.map Member.key)
  acts : ∀ m ∈ ms, ∃ change, schema.effect m = .ok change
  record : ms.foldl (fun a m => schema.put m a) schema.start = a

variable {schema}

theorem effect_eq_put (acts : ∃ change, schema.effect m = .ok change) :
    schema.effect m = .ok (schema.put m) := by
  obtain ⟨change, effect⟩ := acts
  rw [put, effect]

theorem settle_eq_ok (decided : schema.Decided) :
    (schema.form decided).settle [] schema.start ms = .ok a ↔ schema.Comes ms a := by
  constructor
  · intro settled
    obtain ⟨distinct, complete, acts⟩ := (schema.form decided).of_settle_ok settled
    have same := (schema.form decided).settle_ok (a := schema.start)
      (fun m mem => effect_eq_put (acts m mem)) distinct complete
    exact ⟨distinct, complete, acts, Except.ok.inj (same.symm.trans settled)⟩
  · rintro ⟨distinct, complete, acts, rfl⟩
    exact (schema.form decided).settle_ok (fun m mem => effect_eq_put (acts m mem)) distinct complete

/-! ## Lists of field values -/

variable (schema) in
/-- What field values come to, in the order of the fields. -/
def fill (index : Nat) (a : α) : List (Field α) → List Value → Except Fault α
  | [], [] => .ok a
  | [], _ :: _ => .error .trailingText
  | f :: fields, [] =>
    if f.required then .error (.wrongLength index schema.lengthWords)
    else fill (index + 1) a fields []
  | f :: fields, v :: vs =>
    (alone f.read v.text).bind fun change => fill (index + 1) (change a) fields vs

theorem readElements_spaces (spaces : Spaces w) (s : List Char) :
    schema.readElements index a fields (w ++ s) = schema.readElements index a fields s := by
  induction fields generalizing index with
  | nil => simp only [readElements, closeList, skipSpace_spaces spaces]
  | cons f fields ih => simp only [readElements, nextElement, skipSpace_spaces spaces, ih]

/-- Behind the last value the remaining fields are left as they are, or found missing. -/
theorem readElements_bracket (rest : List Char) : schema.readElements index a fields (']' :: rest) =
    (schema.fill index a fields []).map (·, rest) := by
  have closed : skipSpace (']' :: rest) = ']' :: rest := skipSpace_cons (by decide) rest
  induction fields generalizing index with
  | nil =>
    rw [readElements, closeList, closed]
    rfl
  | cons f fields ih =>
    rw [readElements, nextElement, closed, fill]
    cases f.required with
    | false => exact ih
    | true => rfl

/-- What is found where a value stands behind spaces. -/
theorem skipSpace_value (before : Spaces w) (v : Value) (s : List Char) :
    ∃ c tail, v.text ++ s = c :: tail ∧ skipSpace (w ++ c :: tail) = c :: tail ∧
      c ≠ ']' ∧ c ≠ ',' := by
  obtain ⟨c, tail, same, solid, unclosed, part⟩ := v.valid.starts
  refine ⟨c, tail ++ s, ?_, ?_, unclosed, part⟩
  · rw [same, List.cons_append]
  · rw [skipSpace_spaces before, skipSpace_cons solid]

theorem skipSpace_comma (s : List Char) : skipSpace (',' :: s) = ',' :: s :=
  skipSpace_cons (by decide) s

theorem nextElement_value (before : Spaces w) (v : Value) (s : List Char) :
    nextElement first (lead first ++ (w ++ (v.text ++ s))) = .ok (some (v.text ++ s)) := by
  obtain ⟨c, tail, same, ahead, unclosed, part⟩ := skipSpace_value before v s
  rw [same]
  cases first with
  | false => simp [lead, nextElement, skipSpace_comma, ahead, unclosed]
  | true => simp [lead, nextElement, ahead, unclosed, part]

/-- There is no room for a value behind the last field. -/
theorem closeList_value (before : Spaces w) (v : Value) (s : List Char) :
    closeList (lead first ++ (w ++ (v.text ++ s))) = .error .trailingText := by
  obtain ⟨c, tail, same, ahead, unclosed, part⟩ := skipSpace_value before v s
  rw [same]
  cases first with
  | false => simp [lead, closeList, skipSpace_comma, ahead, unclosed]
  | true => simp [lead, closeList, ahead, unclosed, part]

/-- The first value is read by the first field, whatever is behind it. -/
theorem readElements_value (decides : Decides f.read) (before : Spaces w) (v : Value)
    (ends : Ends s) :
    schema.readElements index a (f :: fields) (lead (index == 0) ++ (w ++ (v.text ++ s))) =
      (alone f.read v.text).bind fun change => schema.readElements (index + 1) (change a) fields s := by
  have read := decides v.valid [] s Spaces.nil ends
  rw [List.nil_append] at read
  rw [readElements, nextElement_value before]
  simp only [read]
  cases alone f.read v.text <;> rfl

/-- Values are read one after the other, each by the next field. -/
theorem readElements_elements (decided : ∀ f ∈ fields, Decides f.read) (inside : ElementsText vs l)
    (rest : List Char) : schema.readElements index a fields (lead (index == 0) ++ (l ++ ']' :: rest)) =
      (schema.fill index a fields vs).map (·, rest) := by
  induction inside generalizing index a fields with
  | one before v behind =>
    rw [List.append_assoc, List.append_assoc]
    cases fields with
    | nil =>
      rw [readElements, closeList_value before]
      rfl
    | cons f fields =>
      have decides := decided f List.mem_cons_self
      rw [readElements_value decides before v (behind.ends (ends_bracket rest)), fill]
      cases alone f.read v.text with
      | error fault => rfl
      | ok change =>
        exact (readElements_spaces behind _).trans (readElements_bracket rest)
  | more before v behind _ ih =>
    rw [List.append_assoc, List.append_assoc, List.append_assoc, List.cons_append]
    cases fields with
    | nil =>
      rw [readElements, closeList_value before]
      rfl
    | cons f fields =>
      obtain ⟨decides, others⟩ := List.forall_mem_cons.1 decided
      rw [readElements_value decides before v (behind.ends (ends_comma _)), fill]
      cases alone f.read v.text with
      | error fault => rfl
      | ok change => exact (readElements_spaces behind _).trans (ih others)

/-- The reader of a schema reads a list as its values fill the fields. -/
theorem list_reads (decided : schema.Decided) (written : ListText vs l) :
    Reads schema.read l (schema.fill 0 schema.start schema.fields vs) := by
  intro w rest spaces _
  rw [Schema.read, skipSpace_spaces spaces]
  cases written with
  | empty inside =>
    rw [List.cons_append, skipSpace_cons (by decide), List.append_assoc]
    exact (readElements_spaces inside _).trans (readElements_bracket rest)
  | elements inside =>
    rw [List.cons_append, skipSpace_cons (by decide), List.append_assoc]
    exact readElements_elements decided inside rest

theorem fill_nil : schema.fill index a fields [] = .ok b ↔
    (∀ f ∈ fields, f.required = false) ∧ a = b := by
  induction fields generalizing index with
  | nil => simp [fill]
  | cons f fields ih =>
    cases optional : f.required <;> simp [fill, optional, ih]

theorem settle_nil (form : Form schema Member) :
    form.settle seen a [] = .ok b ↔ schema.Complete seen ∧ a = b := by
  rw [← missing?_eq_none, Form.settle]
  cases schema.missing? seen <;> simp

/-- The fields that are left when those in `seen` have come. -/
structure Left (schema : Schema α) (seen : List String) (fields : List (Field α)) : Prop where
  distinct : (fields.map (·.name)).Nodup
  fresh : ∀ f ∈ fields, f.name ∉ seen
  others : ∀ f ∈ schema.fields, f ∈ fields ∨ f.name ∈ seen
  found : ∀ f ∈ fields, schema.fields.find? (·.name == f.name) = some f

theorem Left.all (distinct : schema.names.Nodup) : schema.Left [] schema.fields where
  distinct := distinct
  fresh := by simp
  others f mem := .inl mem
  found f mem := by
    cases found : schema.fields.find? (·.name == f.name) with
    | none => exact absurd (List.mem_map_of_mem mem) (find?_eq_none.1 found)
    | some g =>
      have same : g.name = f.name := by simpa using List.find?_some found
      rw [List.inj_on_of_nodup_map distinct (List.mem_of_find?_eq_some found) mem same]

theorem Left.tail (left : schema.Left seen (f :: fields)) : schema.Left (f.name :: seen) fields where
  distinct := (List.nodup_cons.1 left.distinct).2
  fresh g mem again := by
    rcases List.mem_cons.1 again with same | again
    · exact (List.nodup_cons.1 left.distinct).1 (List.mem_map.2 ⟨g, mem, same⟩)
    · exact left.fresh g (List.mem_cons_of_mem _ mem) again
  others g mem := by
    rcases left.others g mem with mem | again
    · rcases List.mem_cons.1 mem with rfl | mem
      · exact .inr List.mem_cons_self
      · exact .inl mem
    · exact .inr (List.mem_cons_of_mem _ again)
  found g mem := left.found g (List.mem_cons_of_mem _ mem)

/-- All has come that has to if nothing that is left is required. -/
theorem Left.complete (left : schema.Left seen fields) :
    schema.Complete seen ↔ ∀ f ∈ fields, f.required = false := by
  constructor
  · intro complete f mem
    by_contra required
    have known := List.mem_of_find?_eq_some (left.found f mem)
    exact left.fresh f mem (complete f known (by simpa using required))
  · intro optional f mem required
    rcases left.others f mem with mem | come
    · simp [optional f mem] at required
    · exact come

/-- Values for the fields that are left act as members for these fields. -/
theorem fill_eq_settle (decided : schema.Decided) (left : schema.Left seen fields) :
    schema.fill index a fields vs = .ok b ↔ vs.length ≤ fields.length ∧
      (schema.form decided).settle seen a ((fields.map (·.name)).zipWith Member.mk vs) = .ok b := by
  induction vs generalizing index a fields seen with
  | nil =>
    rw [fill_nil, ← left.complete, List.zipWith_nil_right, settle_nil]
    simp
  | cons v vs ih =>
    cases fields with
    | nil => simp [fill]
    | cons f fields =>
      have effect : schema.effect ⟨f.name, v⟩ = alone f.read v.text := by
        rw [Schema.effect, left.found f List.mem_cons_self]
      have accept : (schema.form decided).accept seen ⟨f.name, v⟩ = alone f.read v.text := by
        rw [Form.accept, if_neg fun both => left.fresh f List.mem_cons_self both.2, ← effect]
        rfl
      rw [fill, List.map_cons, List.zipWith_cons_cons, Form.settle, accept]
      cases alone f.read v.text with
      | error fault => simp [Except.bind]
      | ok change =>
        rw [List.length_cons, List.length_cons, Nat.succ_le_succ_iff]
        exact ih left.tail

theorem fill_eq_ok (decided : schema.Decided) (distinct : schema.names.Nodup) :
    schema.fill 0 schema.start schema.fields vs = .ok a ↔
      vs.length ≤ schema.fields.length ∧ schema.Comes (schema.members vs) a := by
  rw [fill_eq_settle decided (Left.all distinct), ← settle_eq_ok decided]
  rfl

/-! ## Any objects -/

/-- A member with any characters in its key, which may stand for no text: it is found to be wrong, or it
acts as a member with some key, before the others come to what they come to. -/
theorem readMembers_body {w body w₁ w₂ v : List Char} (decided : schema.Decided) (before : Spaces w)
    (inside : Body body) (beforeColon : Spaces w₁) (behindColon : Spaces w₂) (valid : Valid .value v)
    (first : Bool) (seen : List String) (a : α) :
    ∃ result : (List String → α → Except Fault α) → Except Fault α, ∀ {fuel s rest others}, Ends s →
      (∀ seen a, schema.readMembers fuel false seen a s = (others seen a).map (·, rest)) →
        schema.readMembers (fuel + 1) first seen a
          (lead first ++ (w ++ '"' :: (body ++ '"' :: (w₁ ++ ':' :: (w₂ ++ (v ++ s)))))) =
            (result others).map (·, rest) := by
  obtain ⟨key, reads⟩ := readText_body inside
  refine ⟨fun others => key.bind fun key => ((schema.form decided).accept seen ⟨key, v, valid⟩).bind
    fun change => others (key :: seen) (change a), fun {fuel s rest others} ends next => ?_⟩
  rw [readMembers, nextKey_lead first before]
  simp only [reads]
  cases key with
  | error fault => rfl
  | ok key =>
    have value : schema.readMember seen key (w₁ ++ ':' :: (w₂ ++ (v ++ s))) = _ :=
      (schema.form decided).readMember_value (e := ⟨key, v, valid⟩) beforeColon behindColon rfl ends
    simp only [Except.map, value]
    change _ = (((schema.form decided).accept seen ⟨key, v, valid⟩).bind _).map _
    cases (schema.form decided).accept seen ⟨key, v, valid⟩ with
    | error fault => rfl
    | ok change => exact next _ _

/-- The members of an object come to one result, whatever they are. -/
theorem readMembers_valid (decided : schema.Decided) (inside : Valid .members l) (first : Bool)
    (seen : List String) (a : α) : ∃ result : Except Fault α, ∀ fuel rest, l.length < fuel →
      schema.readMembers fuel first seen a (lead first ++ (l ++ '\x7d' :: rest)) =
        result.map (·, rest) := by
  generalize inMembers : Part.members = part at inside
  induction inside generalizing first seen a with
  | member before inside beforeColon behindColon valid behind =>
    obtain ⟨result, reads⟩ :=
      readMembers_body decided before inside beforeColon behindColon valid first seen a
    refine ⟨result fun seen a => (schema.form decided).settle seen a [], fun fuel rest enough => ?_⟩
    simp only [List.length_append, List.length_cons] at enough
    obtain ⟨fuel, rfl⟩ : ∃ k, fuel = k + 1 + 1 :=
      Nat.exists_eq_add_of_le' (show 2 ≤ fuel by omega)
    simp only [List.append_assoc, List.cons_append]
    refine reads (behind.ends (ends_brace rest)) fun seen a => ?_
    rw [readMembers_spaces behind]
    exact (schema.form decided).readMembers_brace fuel false rest
  | members before inside beforeColon behindColon valid behind _ _ ih =>
    obtain ⟨result, reads⟩ :=
      readMembers_body decided before inside beforeColon behindColon valid first seen a
    choose others next using fun seen a => ih false seen a inMembers
    refine ⟨result others, fun fuel rest enough => ?_⟩
    simp only [List.length_append, List.length_cons] at enough
    obtain ⟨fuel, rfl⟩ : ∃ k, fuel = k + 1 := Nat.exists_eq_add_of_le' (show 1 ≤ fuel by omega)
    simp only [List.append_assoc, List.cons_append]
    refine reads (behind.ends (ends_comma _)) fun seen a => ?_
    rw [readMembers_spaces behind]
    exact next seen a fuel rest (by omega)
  | _ => cases inMembers

/-- The reader of a record decides if all of its fields do. -/
theorem read_decides (decided : schema.Decided) : Decides schema.read := by
  refine decides_of_starts (fun c => c = '[' ∨ c = '\x7b') ("struct " ++ schema.title) (fun s => ?_)
    (fun s solid other => ?_) ?_
  · rw [Schema.read, Schema.read, skipSpace_skipSpace]
  · rw [Schema.read, skipSpace_cons solid]
    split
    · rename_i same
      cases same
    · rename_i same
      cases same
      exact absurd (.inl rfl) other
    · rename_i same
      cases same
      exact absurd (.inr rfl) other
    · rfl
  · rintro _ s (rfl | rfl) valid
    · obtain ⟨vs, written⟩ := valid.listText
      exact ⟨_, fun rest ends => list_reads decided written [] rest Spaces.nil ends⟩
    · rcases valid.braced with ⟨w, spaces, rfl⟩ | ⟨l, inside, rfl⟩
      · have written : ObjectText Member.key Member.Written [] _ := .empty spaces
        have reads := (schema.form decided).object_reads written
        exact ⟨_, fun rest ends => reads [] rest Spaces.nil ends⟩
      · obtain ⟨result, reads⟩ := readMembers_valid decided inside true [] schema.start
        refine ⟨result, fun rest _ => ?_⟩
        have enough : l.length < (l ++ ['\x7d'] ++ rest).length + 1 := by
          simp only [List.length_append]
          omega
        have read := reads _ rest enough
        rw [List.cons_append, Schema.read, skipSpace_cons (by decide), ← read]
        simp [lead]

end Schema

end RedisClient.Json
