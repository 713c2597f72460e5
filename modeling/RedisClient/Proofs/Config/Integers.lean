import RedisClient.Proofs.Config.Forms
import RedisClient.Proofs.Json.Integers

/-!
# Integers in configurations

In a document with a configuration, pool limits or an address, each field for an integer takes just the
numerals of the integers that its type holds, and is given their values (`integers_exact`). Any other
number in its place, be it too large, `-0`, or written with a fraction or an exponent, makes the whole
document unusable.
-/

namespace RedisClient

open Json

/-- In every document the field `key` is read exactly, in whatever form and among whatever members. -/
def ExactField {α ε : Type} (schema : Schema α) (decode : String → Except ε α) (key : String)
    (low bound : Int) (value : α → Int) : Prop :=
  ∀ (before after : List Member) (l : Literal) (document : String),
    Padded (RecordText schema (before ++ ⟨key, l.value⟩ :: after)) document →
      Exact (decode document) (schema.Fits before key after) l low bound value

/-- The limit `key` is read exactly, from pool limits by themselves and within a configuration. -/
def ExactLimit (key : String) (bound : Int) (value : PoolConfig → Int) : Prop :=
  ExactField PoolConfig.schema PoolConfig.schema.decode key 0 bound value ∧
  ∀ (limits : Value) (before after first last : List Member) (l : Literal) (document : String),
    RecordText PoolConfig.schema (first ++ ⟨key, l.value⟩ :: last) limits.text →
    Padded (RecordText Config.schema (before ++ ⟨"pool", limits⟩ :: after)) document →
      Exact (Config.ofJson document)
        (Config.schema.Fits before "pool" after ∧ PoolConfig.schema.Fits first key last)
        l 0 bound fun c => value c.pool

theorem exactLimit {β : Type} {key : String} {read : Reader β} {toInt : β → Int}
    {put : PoolConfig → β → PoolConfig} {bound : Int} {value : PoolConfig → Int}
    (integers : ReadsIntegers read 0 bound toInt)
    (found : PoolConfig.schema.fields.find? (·.name == key) = some (.of key read put))
    (holds : ∀ p b, value (put p b) = toInt b) : ExactLimit key bound value := by
  constructor
  · intro before after l document written
    exact PoolConfig.schema_regular.exact integers found holds fun p =>
      PoolConfig.schema_regular.decode_eq_ok written
  · intro limits before after first last l document inside written
    have exact := PoolConfig.schema_regular.exact integers found holds fun p =>
      PoolConfig.schema_regular.alone_eq_ok inside
    refine exact.within (fun pool => { (before ++ after).foldl (fun c m => Config.schema.put m c)
      Config.schema.start with pool }) (fun c => ?_) fun p => rfl
    rw [Config.ofJson_eq_ok, Config.schema_regular.decode_eq_ok written,
      Config.schema_regular.comes_middle]
    simp only [Config.effect_pool]
    constructor
    · rintro ⟨fits, change, ⟨pool, read, rfl⟩, record⟩
      exact ⟨fits, pool, read, record⟩
    · rintro ⟨fits, pool, read, record⟩
      exact ⟨fits, _, ⟨pool, read, rfl⟩, record⟩

/-- Integers are never wrapped around or rounded. Each field is given the value of its literal if this is
the numeral of an integer that its type holds; with any other literal the document is not decoded. -/
theorem integers_exact :
    ExactField Config.schema Config.ofJson "database" (-2 ^ 63) (2 ^ 63) (fun c => c.database.toInt) ∧
    ExactField Config.schema Config.ofJson "connectionTimeout" (-2 ^ 63) (2 ^ 63)
      (fun c => c.connectionTimeout.toInt) ∧
    ExactLimit "maxSize" (2 ^ 32) (fun p => p.maxSize.toNat) ∧
    ExactLimit "minIdle" (2 ^ 32) (fun p => p.minIdle.toNat) ∧
    ExactLimit "maxWaitMillis" (2 ^ 64) (fun p => p.maxWaitMillis.toNat) ∧
    ExactField Address.schema Address.schema.decode "port" 0 (2 ^ 16) (fun a => a.port.toNat) := by
  refine ⟨?_, ?_, ?_, ?_, ?_, ?_⟩
  · intro before after l document written
    exact Config.schema_regular.exact int64_integers rfl (fun _ _ => rfl) fun c =>
      Config.ofJson_eq_ok.trans (Config.schema_regular.decode_eq_ok written)
  · intro before after l document written
    exact Config.schema_regular.exact int64_integers rfl (fun _ _ => rfl) fun c =>
      Config.ofJson_eq_ok.trans (Config.schema_regular.decode_eq_ok written)
  · exact exactLimit uint32_integers rfl fun _ _ => rfl
  · exact exactLimit uint32_integers rfl fun _ _ => rfl
  · exact exactLimit uint64_integers rfl fun _ _ => rfl
  · intro before after l document written
    exact Address.schema_regular.exact uint16_integers rfl (fun _ _ => rfl) fun a =>
      Address.schema_regular.decode_eq_ok written

/-- A database and a limit of one digit are accepted; the port `-0`, in a list, is not. -/
theorem integers_exact_digit :
    (∃ c, Config.ofJson "\x7b\"host\":\"a\",\"database\":-7\x7d" = .ok c) ∧
    (∃ c, Config.ofJson "\x7b\"host\":\"a\",\"pool\":\x7b\"maxSize\":7\x7d\x7d" = .ok c) ∧
    ¬∃ a, Address.schema.decode "[\"a\",-0]" = .ok a := by
  obtain ⟨database, -, maxSize, -, -, port⟩ := integers_exact
  have seven : Whole ['7'] := ⟨⟨by simp, by simp⟩, by simp⟩
  have zero : Whole ['0'] := ⟨⟨by simp, by simp⟩, fun _ => rfl⟩
  let a : Value := ⟨['"', 'a', '"'], .text (.plain (by decide) .nil)⟩
  let n : Literal := ⟨['7'], .positive seven .none .none⟩
  let minus : Literal := ⟨['-', '7'], .negative seven .none .none⟩
  let none : Literal := ⟨['-', '0'], .negative zero .none .none⟩
  have pair (key : String) (v : Value) (plain : key.toList.all (Plain ·) = true) :
      RecordText Config.schema ([⟨"host", a⟩] ++ [⟨key, v⟩]) _ :=
    .object (.members (.more (memberText_plain "host" a (by decide))
      (.one (memberText_plain key v plain))))
  refine ⟨?_, ?_, ?_⟩
  · have written := pair "database" minus.value (by decide)
    have fits : Config.schema.Fits [⟨"host", a⟩] "database" [] :=
      ⟨by simp; decide, by simp; decide, by simp; exact ⟨_, rfl⟩⟩
    exact (database [⟨"host", a⟩] [] minus _
      (.itself written (by simp [a, minus, Literal.value]))).accepted.2
        ⟨fits, -7, .negative seven (by decide), by decide⟩
  · have limits : ObjectText Member.key Member.Written [⟨"maxSize", n.value⟩] _ :=
      .members (.one (memberText_plain "maxSize" n.value (by decide)))
    have written := pair "pool" ⟨_, limits.valid⟩ (by decide)
    have fits : Config.schema.Fits [⟨"host", a⟩] "pool" [] :=
      ⟨by simp; decide, by simp; decide, by simp; exact ⟨_, rfl⟩⟩
    have inside : PoolConfig.schema.Fits [] "maxSize" [] :=
      ⟨by simp; decide, by simp; decide, by simp⟩
    exact (maxSize.2 ⟨_, limits.valid⟩ [⟨"host", a⟩] [] [] [] n _ (.object limits)
      (.itself written (by simp [a, n, Literal.value]))).accepted.2
        ⟨⟨fits, inside⟩, 7, .natural seven, by decide⟩
  · have list : ListText [a, none.value] _ := .elements (.more .nil a .nil (.one .nil none.value .nil))
    have written : RecordText Address.schema ([⟨"host", a⟩] ++ [⟨"port", none.value⟩]) _ :=
      .list (by simp [Address.schema]) list
    have refused : ¬∃ k, IntegerText k ['-', '0'] := by
      rintro ⟨k, numeral⟩
      cases numeral with
      | natural whole => exact absurd (whole.digits.2 '-' List.mem_cons_self) (by decide)
      | negative _ nonzero => exact nonzero rfl
    intro accepted
    obtain ⟨-, k, numeral, -⟩ := (port [⟨"host", a⟩] [] none _
      (.itself written (by simp [a, none, Literal.value]))).accepted.1 accepted
    exact refused ⟨k, numeral⟩

end RedisClient
