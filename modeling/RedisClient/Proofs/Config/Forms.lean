import RedisClient.Config.Json
import RedisClient.Proofs.Json.Members

/-!
# Lists and objects of field values

The records of a configuration can be written as objects or as lists of the values of their first
fields, and it makes no difference which of the two is chosen (`forms_agree`): a list with any values
is decoded just if the object is that gives these values, in any order, to the first fields, and as the
same record. This holds for whole documents and for the pool limits within a configuration. It rests on
the fields of each record being apart (`Config.schema_regular`).
-/

namespace RedisClient

open Json

/-! ## Schemas -/

theorem Address.schema_regular : schema.Regular where
  decided f mem := by
    simp only [schema, List.mem_cons, List.not_mem_nil, or_false] at mem
    rcases mem with rfl | rfl
    · exact Field.of_decides text_decides
    · exact Field.of_decides (bounded_decides ..)
  distinct := by decide
  independent := by
    simp only [schema, List.pairwise_cons, List.forall_mem_cons]
    and_intros <;> first | exact Field.of_commutes fun _ _ _ => rfl | simp

theorem PoolConfig.schema_regular : schema.Regular where
  decided f mem := by
    simp only [schema, List.mem_cons, List.not_mem_nil, or_false] at mem
    rcases mem with rfl | rfl | rfl <;> exact Field.of_decides (bounded_decides ..)
  distinct := by decide
  independent := by
    simp only [schema, List.pairwise_cons, List.forall_mem_cons]
    and_intros <;> first | exact Field.of_commutes fun _ _ _ => rfl | simp

theorem Config.schema_regular : schema.Regular where
  decided f mem := by
    simp only [schema, List.mem_cons, List.not_mem_nil, or_false] at mem
    rcases mem with rfl | rfl | rfl | rfl | rfl | rfl | rfl | rfl | rfl | rfl | rfl
    · exact Field.of_decides text_decides
    · exact Field.of_decides textOrNull_decides
    · exact Field.of_decides (bounded_decides ..)
    · exact Field.of_decides (bounded_decides ..)
    · exact Field.of_decides text_decides
    · exact Field.of_decides flag_decides
    · exact Field.of_decides flag_decides
    · exact Field.of_decides flag_decides
    · exact Field.of_decides flag_decides
    · exact Field.of_decides flag_decides
    · exact Field.of_decides (Schema.read_decides PoolConfig.schema_regular.decided)
  distinct := by decide
  independent := by
    simp only [schema, List.pairwise_cons, List.forall_mem_cons]
    and_intros <;> first | exact Field.of_commutes fun _ _ _ => rfl | simp

/-! ## Decoding -/

theorem Config.ofJson_eq_ok {document : String} {c : Config} :
    Config.ofJson document = .ok c ↔ schema.decode document = .ok c := by
  unfold ofJson
  cases schema.decode document <;> simp

/-- A member with pool limits puts them into the configuration. -/
theorem Config.effect_pool {p : Value} {change : Config → Config} :
    schema.effect ⟨"pool", p⟩ = .ok change ↔
      ∃ pool, alone PoolConfig.schema.read p.text = .ok pool ∧ (fun c => { c with pool }) = change :=
  Field.of_alone_eq_ok

/-- A list with values of the first fields is decoded just if the object is that gives these values to
these fields, in any order, and as the same record: the one that these members come to. -/
def FormsAgree {α ε : Type} (schema : Schema α) (decode : String → Except ε α) : Prop :=
  ∀ (vs : List Value) (ms : List Member) (list object : String), vs.length ≤ schema.fields.length →
    ms.Perm (schema.members vs) → Padded (ListText vs) list →
    Padded (ObjectText Member.key Member.Written ms) object →
      ∀ a, (decode list = .ok a ↔ decode object = .ok a) ∧
        (decode object = .ok a ↔ schema.Comes ms a)

theorem Json.Schema.Regular.formsAgree {α : Type} {schema : Schema α} (regular : schema.Regular) :
    FormsAgree schema schema.decode := by
  intro vs ms list object few perm asList asObject a
  have written : Padded (RecordText schema ms) object := asObject.imp .object
  exact ⟨regular.decode_congr perm.symm (asList.imp (.list few)) written, regular.decode_eq_ok written⟩

/-- Configurations, pool limits and addresses are decoded alike from the list of the first values and
from the object of the first fields; and so is a configuration with pool limits in either form. -/
theorem forms_agree :
    FormsAgree Config.schema Config.ofJson ∧
    FormsAgree PoolConfig.schema PoolConfig.schema.decode ∧
    FormsAgree Address.schema Address.schema.decode ∧
    ∀ (vs : List Value) (ms : List Member) (list object : Value) (before after : List Member)
      (withList withObject : String), vs.length ≤ PoolConfig.schema.fields.length →
      ms.Perm (PoolConfig.schema.members vs) → ListText vs list.text →
      ObjectText Member.key Member.Written ms object.text →
      Padded (RecordText Config.schema (before ++ ⟨"pool", list⟩ :: after)) withList →
      Padded (RecordText Config.schema (before ++ ⟨"pool", object⟩ :: after)) withObject →
        ∀ c, Config.ofJson withList = .ok c ↔ Config.ofJson withObject = .ok c := by
  refine ⟨?_, PoolConfig.schema_regular.formsAgree, Address.schema_regular.formsAgree, ?_⟩
  · intro vs ms list object few perm asList asObject c
    rw [Config.ofJson_eq_ok, Config.ofJson_eq_ok]
    exact Config.schema_regular.formsAgree vs ms list object few perm asList asObject c
  · intro vs ms list object before after withList withObject few perm asList asObject written written' c
    rw [Config.ofJson_eq_ok, Config.ofJson_eq_ok]
    have same (p : PoolConfig) : alone PoolConfig.schema.read list.text = .ok p ↔
        alone PoolConfig.schema.read object.text = .ok p :=
      PoolConfig.schema_regular.alone_congr perm.symm (.list few asList) (.object asObject)
    refine Config.schema_regular.decode_middle written written' fun change => ?_
    rw [Config.effect_pool, Config.effect_pool]
    simp only [same]

/-- Each record from its first field, and pool limits within a configuration. -/
theorem forms_agree_first :
    Config.ofJson "\x7b\"host\":\"a\"\x7d" = .ok { host := "a" } ∧
    PoolConfig.schema.decode "\x7b\"maxSize\":5\x7d" = .ok { maxSize := 5 } ∧
    (∀ a, Address.schema.decode "\x7b\"host\":\"a\"\x7d" ≠ .ok a) ∧
    Config.ofJson "\x7b\"host\":\"a\",\"pool\":\x7b\"maxSize\":5\x7d\x7d" =
      .ok { host := "a", pool := { maxSize := 5 } } := by
  obtain ⟨config, limits, address, nested⟩ := forms_agree
  have digit : Whole ['5'] := ⟨⟨by simp, by simp⟩, by simp⟩
  let a : Value := ⟨['"', 'a', '"'], .text (.plain (by decide) .nil)⟩
  let n : Value := ⟨['5'], .number (.positive digit .none .none)⟩
  have list (v : Value) : ListText [v] _ := .elements (.one .nil v .nil)
  have host : ObjectText Member.key Member.Written [⟨"host", a⟩] _ :=
    .members (.one (memberText_plain "host" a (by decide)))
  have maxSize : ObjectText Member.key Member.Written [⟨"maxSize", n⟩] _ :=
    .members (.one (memberText_plain "maxSize" n (by decide)))
  have pool (v : Value) : RecordText Config.schema ([⟨"host", a⟩] ++ [⟨"pool", v⟩]) _ :=
    .object (.members (.more (memberText_plain "host" a (by decide))
      (.one (memberText_plain "pool" v (by decide)))))
  refine ⟨?_, ?_, ?_, ?_⟩
  · exact (config [a] [⟨"host", a⟩] "[\"a\"]" _ (by simp [Config.schema]) (.refl _)
      (.itself (list a) (by simp [a])) (.itself host (by simp [a])) _).1.1 rfl
  · exact (limits [n] [⟨"maxSize", n⟩] "[5]" _ (by simp [PoolConfig.schema]) (.refl _)
      (.itself (list n) (by simp [n])) (.itself maxSize (by simp [n])) _).1.1 rfl
  · intro b
    exact mt (address [a] [⟨"host", a⟩] "[\"a\"]" _ (by simp [Address.schema]) (.refl _)
      (.itself (list a) (by simp [a])) (.itself host (by simp [a])) b).1.2 nofun
  · exact (nested [n] [⟨"maxSize", n⟩] ⟨_, (list n).valid⟩ ⟨_, maxSize.valid⟩ [⟨"host", a⟩] []
      "\x7b\"host\":\"a\",\"pool\":[5]\x7d" _ (by simp [PoolConfig.schema]) (.refl _) (list n) maxSize
      (.itself (pool _) (by simp [a, n])) (.itself (pool _) (by simp [a, n])) _).1 rfl

end RedisClient
