import Mathlib.Data.List.Pairwise
import Mathlib.Data.List.Perm.Basic
import RedisClient.Proofs.Json.Records

/-!
# Documents by their members

What a document is decoded as depends only on its members, not on its form or spelling
(`decode_eq_ok`), and not on their order (`comes_perm`). So each member can be looked at for itself: if
all is in order around it (`Schema.Fits`), the document is decoded just if its own value is accepted,
and comes to the record with this value (`comes_middle`).
-/

namespace RedisClient.Json

variable {α β γ : Type} {schema : Schema α} {l : List Char} {m m' : Member}
  {ms ms' before after : List Member} {key document : String} {a b : α}

/-! ## Texts of records -/

/-- A record, as an object of members or as a list of field values. -/
inductive RecordText (schema : Schema α) : List Member → List Char → Prop
  | object {ms : List Member} {l : List Char} (written : ObjectText Member.key Member.Written ms l) :
    RecordText schema ms l
  | list {vs : List Value} {l : List Char} (few : vs.length ≤ schema.fields.length)
    (written : ListText vs l) : RecordText schema (schema.members vs) l

theorem RecordText.valid (written : RecordText schema ms l) : Valid .value l := by
  cases written with
  | object written => exact written.valid
  | list _ written => exact written.valid

theorem Padded.imp {P Q : List Char → Prop} (imp : ∀ {l}, P l → Q l) (padded : Padded P document) :
    Padded Q document := by
  obtain ⟨w, l, w', before, written, behind, whole⟩ := padded
  exact ⟨w, l, w', before, imp written, behind, whole⟩

theorem Padded.itself {P : List Char → Prop} (written : P l) (whole : document.toList = l) :
    Padded P document := by
  refine ⟨[], l, [], Spaces.nil, written, Spaces.nil, ?_⟩
  rw [whole, List.nil_append, List.append_nil]

/-- A member without spaces and without escapes in its key. -/
theorem memberText_plain (key : String) (v : Value) (plain : key.toList.all (Plain ·) = true) :
    MemberText Member.key Member.Written ⟨key, v⟩ ('"' :: (key.toList ++ '"' :: ':' :: v.text)) := by
  have member : MemberText Member.key Member.Written ⟨key, v⟩ _ :=
    .mk .nil (.itself plain) .nil .nil rfl .nil
  simpa using member

/-! ## Schemas whose fields are apart -/

/-- What the values of two fields do to a record does not depend on which comes first. -/
def Field.Commutes (f g : Field α) : Prop := ∀ ⦃v w c d⦄, alone f.read v = .ok c →
  alone g.read w = .ok d → ∀ a, c (d a) = d (c a)

instance : Std.Symm (@Field.Commutes α) :=
  ⟨fun _ _ commutes _ _ _ _ first second a => (commutes second first a).symm⟩

/-- Fields commute if they are put into different places of the record. -/
theorem Field.of_commutes {name name' : String} {read : Reader β} {read' : Reader γ}
    {put : α → β → α} {put' : α → γ → α} {required required' : Bool}
    (commute : ∀ a b c, put (put' a c) b = put' (put a b) c) :
    (Field.of name read put required).Commutes (.of name' read' put' required') := by
  intro v w c d first second a
  obtain ⟨b, -, rfl⟩ := Field.of_alone_eq_ok.1 first
  obtain ⟨c, -, rfl⟩ := Field.of_alone_eq_ok.1 second
  exact commute a b c

namespace Schema

/-- A schema whose fields have different names, decide on each value and go to different places of the
record. -/
structure Regular (schema : Schema α) : Prop where
  decided : schema.Decided
  distinct : schema.names.Nodup
  independent : schema.fields.Pairwise Field.Commutes

/-- A member for `key` is all that is missing: with it no field comes twice and all required fields come,
and the values of the others are accepted. -/
structure Fits (schema : Schema α) (before : List Member) (key : String) (after : List Member) :
    Prop where
  distinct : schema.Distinct (before.map Member.key ++ key :: after.map Member.key)
  complete : schema.Complete (before.map Member.key ++ key :: after.map Member.key)
  acts : ∀ m ∈ before ++ after, ∃ change, schema.effect m = .ok change

variable (schema) in
theorem effect_cases (m : Member) : schema.effect m = .ok id ∨
    ∃ f ∈ schema.fields, f.name = m.key ∧ schema.effect m = alone f.read m.value.text := by
  unfold effect
  cases found : schema.fields.find? (·.name == m.key) with
  | none => exact .inl rfl
  | some f =>
    have same : f.name = m.key := by simpa using List.find?_some found
    exact .inr ⟨f, List.mem_of_find?_eq_some found, same, rfl⟩

/-- Two members for one field are one and the same. -/
theorem Distinct.inj (distinct : schema.Distinct (ms.map Member.key)) (mem : m ∈ ms)
    (mem' : m' ∈ ms) (known : m.key ∈ schema.names) (same : m.key = m'.key) : m = m' := by
  rw [Distinct, List.filter_map] at distinct
  refine List.inj_on_of_nodup_map distinct ?_ ?_ same
  · simpa [mem] using known
  · simpa [mem'] using same ▸ known

namespace Regular

variable (regular : schema.Regular)

include regular

theorem alone_eq_ok (written : RecordText schema ms l) :
    alone schema.read l = .ok a ↔ schema.Comes ms a := by
  cases written with
  | object written =>
    rw [((schema.form regular.decided).object_reads written).alone]
    exact settle_eq_ok regular.decided
  | list few written =>
    rw [(list_reads regular.decided written).alone, fill_eq_ok regular.decided regular.distinct]
    exact and_iff_right few

/-- A document is decoded as the record that its members come to. -/
theorem decode_eq_ok (written : Padded (RecordText schema ms) document) :
    schema.decode document = .ok a ↔ schema.Comes ms a := by
  obtain ⟨w, l, w', before, written, behind, whole⟩ := written
  rw [decode, whole, decodeChars_reads (read_decides regular.decided written.valid) before behind]
  exact regular.alone_eq_ok written

/-! ## The order of the members -/

/-- Members do not get into each other's way, unless they are for one field. -/
theorem put_comm (apart : m.key ∈ schema.names → m.key ≠ m'.key) (a : α) :
    schema.put m (schema.put m' a) = schema.put m' (schema.put m a) := by
  rcases effect_cases schema m with effect | ⟨f, mem, same, effect⟩
  · simp only [put, effect, id]
  · rcases effect_cases schema m' with effect' | ⟨g, mem', same', effect'⟩
    · simp only [put, effect', id]
    · have other : f ≠ g := by
        rintro rfl
        exact apart (same ▸ List.mem_map_of_mem mem) (same.symm.trans same')
      have commutes : f.Commutes g := regular.independent.forall mem mem' other
      simp only [put, effect, effect']
      cases first : alone f.read m.value.text with
      | error fault => rfl
      | ok c =>
        cases second : alone g.read m'.value.text with
        | error fault => rfl
        | ok d => exact commutes first second a

theorem comes_perm (perm : ms.Perm ms') (comes : schema.Comes ms a) : schema.Comes ms' a := by
  obtain ⟨distinct, complete, acts, rfl⟩ := comes
  refine ⟨(distinct_perm (perm.map _)).1 distinct, (complete_perm (perm.map _)).1 complete,
    fun m mem => acts m (perm.mem_iff.2 mem), ?_⟩
  refine (perm.foldl_eq' (fun m mem m' mem' a => ?_) _).symm
  by_cases same : m = m'
  · rw [same]
  · exact regular.put_comm (fun known both => same (distinct.inj mem' mem known both).symm) a

theorem comes_congr (perm : ms.Perm ms') : schema.Comes ms a ↔ schema.Comes ms' a :=
  ⟨regular.comes_perm perm, regular.comes_perm perm.symm⟩

/-- Records with the same members, whatever their order and form, are read alike. -/
theorem alone_congr {l' : List Char} (perm : ms.Perm ms') (written : RecordText schema ms l)
    (written' : RecordText schema ms' l') :
    alone schema.read l = .ok a ↔ alone schema.read l' = .ok a := by
  rw [regular.alone_eq_ok written, regular.alone_eq_ok written', regular.comes_congr perm]

theorem decode_congr {document' : String} (perm : ms.Perm ms')
    (written : Padded (RecordText schema ms) document)
    (written' : Padded (RecordText schema ms') document') :
    schema.decode document = .ok a ↔ schema.decode document' = .ok a := by
  rw [regular.decode_eq_ok written, regular.decode_eq_ok written', regular.comes_congr perm]

/-- A member comes to the record if all is in order around it, and if its own value is accepted. -/
theorem comes_middle : schema.Comes (before ++ m :: after) b ↔ schema.Fits before m.key after ∧
    ∃ change, schema.effect m = .ok change ∧
      change ((before ++ after).foldl (fun a m => schema.put m a) schema.start) = b := by
  have perm : (before ++ m :: after).Perm (before ++ after ++ [m]) :=
    List.perm_middle.trans (List.perm_append_singleton _ _).symm
  have keys : ((before ++ m :: after).map Member.key) =
      before.map Member.key ++ m.key :: after.map Member.key := by
    rw [List.map_append, List.map_cons]
  constructor
  · intro comes
    obtain ⟨-, -, -, record⟩ := regular.comes_perm perm comes
    obtain ⟨change, effect⟩ := comes.acts m (by simp)
    refine ⟨⟨keys ▸ comes.distinct, keys ▸ comes.complete, fun m mem => comes.acts m ?_⟩,
      change, effect, ?_⟩
    · rcases List.mem_append.1 mem with mem | mem <;> simp [mem]
    · rwa [List.foldl_append, List.foldl_cons, List.foldl_nil, put, effect] at record
  · rintro ⟨⟨distinct, complete, acts⟩, change, effect, rfl⟩
    refine regular.comes_perm perm.symm ⟨?_, ?_, ?_, ?_⟩
    · rwa [distinct_perm (perm.symm.map _), keys]
    · rwa [complete_perm (perm.symm.map _), keys]
    · intro m' mem
      rcases List.mem_append.1 mem with mem | mem
      · exact acts m' mem
      · exact ⟨change, List.mem_singleton.1 mem ▸ effect⟩
    · rw [List.foldl_append, List.foldl_cons, List.foldl_nil, put, effect]

/-- Members for one field with the same effect can be exchanged. -/
theorem decode_middle {v v' : Value} {document' : String}
    (written : Padded (RecordText schema (before ++ ⟨key, v⟩ :: after)) document)
    (written' : Padded (RecordText schema (before ++ ⟨key, v'⟩ :: after)) document')
    (same : ∀ change, schema.effect ⟨key, v⟩ = .ok change ↔ schema.effect ⟨key, v'⟩ = .ok change) :
    schema.decode document = .ok a ↔ schema.decode document' = .ok a := by
  rw [regular.decode_eq_ok written, regular.decode_eq_ok written', regular.comes_middle,
    regular.comes_middle]
  simp only [same]

end Regular

end Schema

end RedisClient.Json
