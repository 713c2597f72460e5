import RedisClient.Proofs.Json.Skipping

/-!
# Reading records from objects

A form tells which entries an object may have for a schema: what is written for each of them, and
what it does to the record. `Form.settle` lets the entries of a list act one after the other, without
any text; the reader of a schema comes to just this result (`Form.object_reads`). An object settles
if no key of a field comes twice, every required field comes and every entry can act
(`Form.settle_ok`), and only then (`Form.of_settle_ok`). An object that is written from the values of
the fields is read as these values (`Schema.decode_writeObject`).
-/

namespace RedisClient.Json

variable {α β ε : Type} {schema : Schema α} {l v w w' w₁ w₂ s rest body : List Char}

namespace Schema

def names (schema : Schema α) : List String := schema.fields.map (·.name)

def Distinct (schema : Schema α) (keys : List String) : Prop := (keys.filter (· ∈ schema.names)).Nodup

instance (keys : List String) : Decidable (schema.Distinct keys) :=
  inferInstanceAs (Decidable (keys.filter (· ∈ schema.names)).Nodup)

def Complete (schema : Schema α) (keys : List String) : Prop :=
  ∀ f ∈ schema.fields, f.required = true → f.name ∈ keys

instance (keys : List String) : Decidable (schema.Complete keys) :=
  inferInstanceAs (Decidable (∀ f ∈ schema.fields, f.required = true → f.name ∈ keys))

variable {key : String} {keys keys' : List String}

theorem distinct_nil : schema.Distinct [] := List.nodup_nil

theorem distinct_cons : schema.Distinct (key :: keys) ↔
    (key ∈ schema.names → key ∉ keys) ∧ schema.Distinct keys := by
  unfold Distinct
  by_cases known : key ∈ schema.names <;> simp [known]

theorem distinct_perm (perm : keys.Perm keys') : schema.Distinct keys ↔ schema.Distinct keys' :=
  (perm.filter _).nodup_iff

theorem complete_perm (perm : keys.Perm keys') : schema.Complete keys ↔ schema.Complete keys' := by
  simp only [Complete, perm.mem_iff]

theorem missing?_eq_none : schema.missing? keys = none ↔ schema.Complete keys := by
  simp [missing?, Complete]

theorem find?_eq_none :
    schema.fields.find? (·.name == key) = none ↔ key ∉ schema.names := by
  simp [names]

/-! ## Marks between the parts of an object -/

theorem readColon_spaces (spaces : Spaces w) (s : List Char) :
    readColon (w ++ ':' :: s) = .ok s := by
  rw [readColon, skipSpace_spaces spaces, skipSpace_cons (by decide)]
  rfl

/-- What stands before the key of an entry that is not the first one. -/
def lead (first : Bool) : List Char := if first then [] else [',']

theorem nextKey_lead (first : Bool) (before : Spaces w) (s : List Char) :
    nextKey first (lead first ++ (w ++ '"' :: s)) = .ok (some s) := by
  have key : skipSpace (w ++ '"' :: s) = '"' :: s := by
    rw [skipSpace_spaces before, skipSpace_cons (by decide)]
  cases first with
  | false =>
    have comma : skipSpace (',' :: (w ++ '"' :: s)) = ',' :: (w ++ '"' :: s) :=
      skipSpace_cons (by decide) _
    simp [lead, nextKey, comma, key]
  | true => simp [lead, nextKey, key]

theorem readMembers_spaces {fuel : Nat} {first : Bool} {seen : List String} {a : α}
    (spaces : Spaces w) (s : List Char) :
    schema.readMembers fuel first seen a (w ++ s) = schema.readMembers fuel first seen a s := by
  cases fuel with
  | zero => rfl
  | succ fuel =>
    simp only [readMembers, nextKey, closeObject, skipSpace_spaces spaces]

/-- A document may have spaces around its record. -/
theorem decodeChars_reads {result : Except Fault α} (reads : Reads schema.read l result)
    (before : Spaces w) (behind : Spaces w') : schema.decodeChars (w ++ (l ++ w')) = result := by
  have ends : Ends w' := List.append_nil w' ▸ behind.ends ends_nil
  have blank : skipSpace w' = [] := by
    rw [← List.append_nil w', skipSpace_spaces behind]
    rfl
  rw [decodeChars, reads w w' before ends]
  cases result with
  | error fault => rfl
  | ok a => simp only [Except.map, blank, List.isEmpty_nil, if_true]

end Schema

/-- Every entry takes a character at least. -/
theorem MembersText.length_le {key : ε → String} {value : ε → List Char → Prop} {es : List ε}
    (members : MembersText key value es l) : es.length ≤ l.length := by
  induction members with
  | one member =>
    cases member
    simp only [List.length_append, List.length_cons, List.length_nil]
    omega
  | more member _ ih =>
    simp only [List.length_append, List.length_cons]
    omega

/-- Reading a field comes to putting the value into the record. -/
theorem Field.of_reads {name : String} {read : Reader β} {put : α → β → α} {required : Bool}
    {result : Except Fault β} (reads : Reads read v result) :
    Reads (Field.of name read put required).read v (result.map fun b a => put a b) := by
  intro w rest spaces ends
  simp only [Field.of, reads w rest spaces ends]
  cases result <;> rfl

/-- How an entry is understood: it gives the value of a field, or its key means nothing. -/
inductive Understood (schema : Schema α) (key : String) (value : List Char → Prop)
    (effect : Except Fault (α → α)) : Prop
  | field {f : Field α} (found : schema.fields.find? (·.name == key) = some f)
    (reads : ∀ {v}, value v → Reads f.read v effect)
  | unknown (found : schema.fields.find? (·.name == key) = none) (unchanged : effect = .ok id)
    (valid : ∀ {v}, value v → Valid .value v)

/-- The entries that an object may have: how they are written, and what they do to the record. -/
structure Form (schema : Schema α) (ε : Type) where
  key : ε → String
  value : ε → List Char → Prop
  effect : ε → Except Fault (α → α)
  understood (e : ε) : Understood schema (key e) (value e) (effect e)

namespace Form

variable (form : Form schema ε) {e : ε} {es : List ε} {a b : α} {seen : List String}

/-- What an entry does after other keys: a field does not come twice. -/
def accept (seen : List String) (e : ε) : Except Fault (α → α) :=
  if form.key e ∈ schema.names ∧ form.key e ∈ seen then .error (.repeatedField (form.key e))
  else form.effect e

/-- What entries come to, one after the other. At the end, no required field may be missing. -/
def settle (seen : List String) (a : α) : List ε → Except Fault α
  | [] => (schema.missing? seen).elim (.ok a) fun name => .error (.missingField name)
  | e :: es => (form.accept seen e).bind fun change => settle (form.key e :: seen) (change a) es

/-! ## Results -/

theorem settle_ok_after {put : ε → α → α} (acts : ∀ e ∈ es, form.effect e = .ok (put e))
    (distinct : schema.Distinct (es.map form.key ++ seen))
    (complete : schema.Complete (es.map form.key ++ seen)) :
    form.settle seen a es = .ok (es.foldl (fun a e => put e a) a) := by
  -- keys move from the entries to `seen`; both conditions are about all of them in any order
  induction es generalizing seen a with
  | nil =>
    have nothing : schema.missing? seen = none := Schema.missing?_eq_none.2 complete
    rw [settle, nothing]
    rfl
  | cons e es ih =>
    obtain ⟨fresh, -⟩ := Schema.distinct_cons.1 distinct
    have first : ¬(form.key e ∈ schema.names ∧ form.key e ∈ seen) :=
      fun ⟨known, again⟩ => fresh known (List.mem_append_right _ again)
    rw [settle, accept, if_neg first, acts e (List.mem_cons_self ..)]
    exact ih (fun e mem => acts e (List.mem_cons_of_mem _ mem))
      ((Schema.distinct_perm List.perm_middle).2 distinct)
      ((Schema.complete_perm List.perm_middle).2 complete)

/-- Entries that can act come to the record in which each has done so. -/
theorem settle_ok {put : ε → α → α} (acts : ∀ e ∈ es, form.effect e = .ok (put e))
    (distinct : schema.Distinct (es.map form.key)) (complete : schema.Complete (es.map form.key)) :
    form.settle [] a es = .ok (es.foldl (fun a e => put e a) a) := by
  apply form.settle_ok_after acts <;> rwa [List.append_nil]

theorem of_settle_ok_after (before : schema.Distinct seen) (settled : form.settle seen a es = .ok b) :
    schema.Distinct (es.map form.key ++ seen) ∧ schema.Complete (es.map form.key ++ seen) ∧
      ∀ e ∈ es, ∃ change, form.effect e = .ok change := by
  induction es generalizing seen a with
  | nil =>
    rw [settle] at settled
    cases missing : schema.missing? seen with
    | none => exact ⟨before, Schema.missing?_eq_none.1 missing, by simp⟩
    | some name => rw [missing] at settled; cases settled
  | cons e es ih =>
    rw [settle, accept] at settled
    split at settled
    · cases settled
    · rename_i first
      cases effect : form.effect e with
      | error fault => rw [effect] at settled; cases settled
      | ok change =>
        rw [effect] at settled
        have distinct : schema.Distinct (form.key e :: seen) :=
          Schema.distinct_cons.2 ⟨fun known again => first ⟨known, again⟩, before⟩
        obtain ⟨distinct, complete, acts⟩ := ih distinct settled
        refine ⟨(Schema.distinct_perm List.perm_middle).1 distinct,
          (Schema.complete_perm List.perm_middle).1 complete, ?_⟩
        rintro d (_ | ⟨_, mem⟩)
        · exact ⟨change, effect⟩
        · exact acts d mem

/-- Entries come to a record only if no field comes twice, none that is required is missing, and each
of them can act. -/
theorem of_settle_ok (settled : form.settle [] a es = .ok b) :
    schema.Distinct (es.map form.key) ∧ schema.Complete (es.map form.key) ∧
      ∀ e ∈ es, ∃ change, form.effect e = .ok change := by
  have settled := form.of_settle_ok_after Schema.distinct_nil settled
  rwa [List.append_nil] at settled

/-! ## Texts -/

/-- The closing brace. -/
theorem readMembers_brace (fuel : Nat) (first : Bool) (rest : List Char) :
    schema.readMembers (fuel + 1) first seen a ('\x7d' :: rest) =
      (form.settle seen a []).map (·, rest) := by
  have solid : skipSpace ('\x7d' :: rest) = '\x7d' :: rest := skipSpace_cons (by decide) rest
  simp only [Schema.readMembers, Schema.nextKey, Schema.closeObject, solid, settle]
  cases schema.missing? seen <;> rfl

/-- The value of an entry is read, or skipped, as the entry is understood. -/
theorem readMember_value (beforeColon : Spaces w₁) (behindColon : Spaces w₂)
    (written : form.value e v) (ends : Ends s) :
    schema.readMember seen (form.key e) (w₁ ++ ':' :: (w₂ ++ (v ++ s))) =
      (form.accept seen e).map (·, s) := by
  have colon := Schema.readColon_spaces beforeColon (w₂ ++ (v ++ s))
  unfold Schema.readMember accept
  cases form.understood e with
  | field found reads =>
    have known : form.key e ∈ schema.names :=
      Decidable.by_contra fun unknown => by simp [Schema.find?_eq_none.2 unknown] at found
    simp only [found, List.contains_iff_mem, known, true_and]
    split
    · rfl
    · rw [colon]
      exact reads written w₂ s behindColon ends
  | unknown found unchanged valid =>
    have unknown := Schema.find?_eq_none.1 found
    simp only [found, unknown, false_and, if_false, unchanged, colon]
    exact congrArg (Except.map _) (value_skipped (valid written) w₂ s behindColon ends)

/-- One entry is read, and then the others. -/
theorem readMembers_member {fuel : Nat} {first : Bool} (member : MemberText form.key form.value e l)
    (ends : Ends s) :
    schema.readMembers (fuel + 1) first seen a (Schema.lead first ++ (l ++ s)) =
      (form.accept seen e).bind fun change =>
        schema.readMembers fuel false (form.key e :: seen) (change a) s := by
  obtain ⟨before, spelled, beforeColon, behindColon, written, behind⟩ := member
  simp only [List.append_assoc, List.cons_append, Schema.readMembers, Schema.nextKey_lead first before,
    readText_spells spelled, form.readMember_value beforeColon behindColon written (behind.ends ends)]
  cases form.accept seen e with
  | error fault => rfl
  | ok change => exact Schema.readMembers_spaces behind s

/-- The entries are read one after the other; the fuel lasts, as there is one for each of them. -/
theorem readMembers_members (members : MembersText form.key form.value es l) {fuel : Nat}
    (enough : es.length < fuel) (first : Bool) (rest : List Char) :
    schema.readMembers fuel first seen a (Schema.lead first ++ (l ++ '\x7d' :: rest)) =
      (form.settle seen a es).map (·, rest) := by
  induction members generalizing fuel first seen a with
  | @one e l member =>
    obtain ⟨fuel, rfl⟩ : ∃ k, fuel = k + 1 + 1 := Nat.exists_eq_add_of_le' enough
    rw [form.readMembers_member member (ends_brace rest), settle]
    cases form.accept seen e with
    | error fault => rfl
    | ok change => exact form.readMembers_brace fuel false rest
  | @more e es l l' member _ ih =>
    obtain ⟨fuel, rfl⟩ := Nat.exists_eq_add_of_lt enough
    rw [List.append_assoc, List.cons_append, form.readMembers_member member (ends_comma _), settle]
    cases form.accept seen e with
    | error fault => rfl
    | ok change => exact ih (by simp only [List.length_cons] at enough ⊢; omega) false

/-- The reader of a schema reads an object as its entries settle. -/
theorem object_reads (written : ObjectText form.key form.value es l) :
    Reads schema.read l (form.settle [] schema.start es) := by
  intro w rest spaces _
  rw [Schema.read, skipSpace_spaces spaces]
  cases written with
  | empty inside =>
    rw [List.cons_append, skipSpace_cons (by decide), List.append_assoc]
    simp only [Schema.readMembers_spaces inside]
    exact form.readMembers_brace _ true rest
  | @members es l members =>
    have few := members.length_le
    rw [List.cons_append, skipSpace_cons (by decide), List.append_assoc]
    refine form.readMembers_members members ?_ true rest
    rw [List.length_append]
    omega

end Form

/-! ## Written records -/

/-- What is written for a field, and what reading it does to the record. -/
structure Given (schema : Schema α) where
  name : String
  text : String
  change : α → α
  field : ∃ f, schema.fields.find? (·.name == name) = some f ∧ Reads f.read text.toList (.ok change)

def Given.of {read : Reader β} {put : α → β → α} {required : Bool} (name text : String) (b : β)
    (reads : Reads read text.toList (.ok b))
    (found : schema.fields.find? (·.name == name) = some (.of name read put required)) :
    Given schema :=
  ⟨name, text, fun a => put a b, _, found, Field.of_reads reads⟩

/-- The form of objects that consist of written fields. -/
def Given.form : Form schema (Given schema) where
  key := name
  value g v := v = g.text.toList
  effect g := .ok g.change
  understood g := by
    obtain ⟨f, found, reads⟩ := g.field
    exact .field found fun same => same ▸ reads

theorem Given.memberText (g : Given schema) : MemberText Given.form.key Given.form.value g
    (quote g.name ++ ":" ++ g.text).toList := by
  obtain ⟨body, spelled, quoted⟩ := quote_textText g.name
  have text : MemberText Given.form.key Given.form.value g
      ([] ++ '"' :: (body ++ '"' :: ([] ++ ':' :: ([] ++ (g.text.toList ++ []))))) :=
    .mk .nil spelled .nil .nil rfl .nil
  simpa [quoted] using text

theorem membersText_intercalate (g : Given schema) (gs : List (Given schema)) :
    MembersText Given.form.key Given.form.value (g :: gs)
      (",".intercalate ((g :: gs).map fun g => quote g.name ++ ":" ++ g.text)).toList := by
  induction gs generalizing g with
  | nil => simpa using MembersText.one g.memberText
  | cons h gs ih =>
    have comma (x y : String) : (x ++ "," ++ y).toList = x.toList ++ ',' :: y.toList := by simp
    rw [List.map_cons, String.intercalate_cons_of_ne_nil (by simp), comma]
    exact .more g.memberText (ih h)

/-- What is written on one line is an object, without any spaces. -/
theorem writeObject_objectText (gs : List (Given schema)) :
    ObjectText Given.form.key Given.form.value gs
      (writeObject (gs.map fun g => (g.name, g.text))).toList := by
  have braces (x : String) : ("\x7b" ++ x ++ "\x7d").toList = '\x7b' :: (x.toList ++ ['\x7d']) := by
    simp
  rw [writeObject, List.map_map, braces]
  cases gs with
  | nil => exact .empty .nil
  | cons g gs => exact .members (membersText_intercalate g gs)

namespace Schema

variable {a : α} (gs : List (Given schema))

/-- The object of all fields is read as the record that they make up, whatever follows it. -/
theorem reads_writeObject (all : gs.map Given.name = schema.names) (distinct : schema.names.Nodup)
    (record : gs.foldl (fun a g => g.change a) schema.start = a) :
    Reads schema.read (writeObject (gs.map fun g => (g.name, g.text))).toList (.ok a) := by
  have complete : schema.Complete (gs.map Given.name) :=
    fun f mem _ => all ▸ List.mem_map_of_mem mem
  have settled : Given.form.settle [] schema.start gs =
      .ok (gs.foldl (fun a g => g.change a) schema.start) :=
    Given.form.settle_ok (fun _ _ => rfl) ((all ▸ distinct).filter _) complete
  rw [record] at settled
  exact settled ▸ Given.form.object_reads (writeObject_objectText gs)

/-- A document with nothing but the object of all fields is read as the record that they make up. -/
theorem decode_writeObject (all : gs.map Given.name = schema.names) (distinct : schema.names.Nodup)
    (record : gs.foldl (fun a g => g.change a) schema.start = a) :
    schema.decode (writeObject (gs.map fun g => (g.name, g.text))) = .ok a := by
  have decoded := decodeChars_reads (reads_writeObject gs all distinct record) .nil .nil
  rwa [List.nil_append, List.append_nil] at decoded

end Schema

end RedisClient.Json
