import RedisClient.Proofs.Json.Members

/-!
# Integers in records

The readers of integers read exactly the numerals of the integers of their types, as these integers
(`ReadsIntegers`): no number wraps around, and none is rounded. So the literal in the place of such a
field decides what becomes of a record in which all else is in order: it is read just if the literal is
the numeral of an integer that fits, and then it holds this integer (`Schema.Regular.exact`).
-/

namespace RedisClient.Json

variable {α β γ ε ζ : Type} {schema : Schema α} {before after : List Member}
  {key name expected : String} {low bound : Int}

structure Literal where
  text : List Char
  number : NumberText text

def Literal.value (l : Literal) : Value := ⟨l.text, .number l.number⟩

/-! ## Readers -/

/-- Of all literals the reader takes the numerals of the integers from `low` up to `bound`, and each of
them for the value that stands for the integer. -/
structure ReadsIntegers (read : Reader β) (low bound : Int) (toInt : β → Int) : Prop where
  alone_eq_ok : ∀ (l : Literal) b, alone read l.text = .ok b ↔ IntegerText (toInt b) l.text
  range : ∀ b, low ≤ toInt b ∧ toInt b < bound
  onto : ∀ k, low ≤ k → k < bound → ∃ b, toInt b = k

/-- What lies in the range of a type is taken for its value there. -/
theorem Bounded.integers {ofInt : Int → β} {toInt : β → Int}
    (type : Bounded low bound ofInt toInt) :
    ReadsIntegers (bounded expected low bound ofInt) low bound toInt where
  range := type.range
  onto k above below := ⟨ofInt k, type.toInt_ofInt k above below⟩
  alone_eq_ok l b := by
    have accepts (k : Int) : (if low ≤ k ∧ k < bound then some (ofInt k) else none) = some b ↔
        toInt b = k := by
      constructor
      · intro accepted
        split at accepted
        · rename_i inside
          cases accepted
          exact type.toInt_ofInt k inside.1 inside.2
        · cases accepted
      · rintro rfl
        rw [if_pos (type.range b), type.ofInt_toInt]
    rw [bounded, number_alone l.number]
    · simp only [accepts, exists_eq_right']
    · intro k b accepted
      have small := type.small
      split at accepted
      · omega
      · cases accepted

theorem int64_integers : ReadsIntegers int64 (-2 ^ 63) (2 ^ 63) Int64.toInt :=
  int64_bounded.integers

theorem uint16_integers : ReadsIntegers uint16 0 (2 ^ 16) fun n => n.toNat :=
  uint16_bounded.integers

theorem uint32_integers : ReadsIntegers uint32 0 (2 ^ 32) fun n => n.toNat :=
  uint32_bounded.integers

theorem uint64_integers : ReadsIntegers uint64 0 (2 ^ 64) fun n => n.toNat :=
  uint64_bounded.integers

/-! ## Records -/

/-- What reading comes to with a literal in the place of an integer: a record just if all around it
`fits` and it is the numeral of an integer from `low` up to `bound`, and then one with this integer. -/
structure Exact (result : Except ε α) (fits : Prop) (l : Literal) (low bound : Int) (value : α → Int) :
    Prop where
  accepted : (∃ a, result = .ok a) ↔ fits ∧ ∃ k, IntegerText k l.text ∧ low ≤ k ∧ k < bound
  held : ∀ a, result = .ok a → IntegerText (value a) l.text

variable {result : Except ε α} {fits : Prop} {l : Literal} {value : α → Int}

/-- A record is read from its members with the value of the literal, or not at all. -/
theorem Schema.Regular.exact (regular : schema.Regular) {read : Reader β} {put : α → β → α}
    {required : Bool} {toInt : β → Int} (integers : ReadsIntegers read low bound toInt)
    (found : schema.fields.find? (·.name == key) = some (.of name read put required))
    (holds : ∀ a b, value (put a b) = toInt b)
    (comes : ∀ a, result = .ok a ↔ schema.Comes (before ++ ⟨key, l.value⟩ :: after) a) :
    Exact result (schema.Fits before key after) l low bound value := by
  have effect {change : α → α} : schema.effect ⟨key, l.value⟩ = .ok change ↔
      ∃ b, IntegerText (toInt b) l.text ∧ (fun a => put a b) = change := by
    rw [Schema.effect, found]
    simp only [Field.of_alone_eq_ok, Literal.value, integers.alone_eq_ok]
  simp only [regular.comes_middle, effect] at comes
  constructor
  · constructor
    · rintro ⟨a, ok⟩
      obtain ⟨fits, change, ⟨b, numeral, -⟩, -⟩ := (comes a).1 ok
      exact ⟨fits, toInt b, numeral, integers.range b⟩
    · rintro ⟨fits, k, numeral, above, below⟩
      obtain ⟨b, rfl⟩ := integers.onto k above below
      exact ⟨_, (comes _).2 ⟨fits, _, ⟨b, numeral, rfl⟩, rfl⟩⟩
  · intro a ok
    obtain ⟨-, change, ⟨b, numeral, rfl⟩, rfl⟩ := (comes a).1 ok
    rwa [holds]

/-- A record within another one is read as it would be by itself. -/
theorem Exact.within {outer : Except ζ γ} {around : Prop} {value' : γ → Int} (put : α → γ)
    (exact : Exact result fits l low bound value)
    (comes : ∀ c, outer = .ok c ↔ around ∧ ∃ a, result = .ok a ∧ put a = c)
    (holds : ∀ a, value' (put a) = value a) : Exact outer (around ∧ fits) l low bound value' where
  accepted := by
    rw [and_assoc, ← exact.accepted]
    constructor
    · rintro ⟨c, ok⟩
      obtain ⟨around, a, ok, -⟩ := (comes c).1 ok
      exact ⟨around, a, ok⟩
    · rintro ⟨around, a, ok⟩
      exact ⟨put a, (comes _).2 ⟨around, a, ok, rfl⟩⟩
  held c ok := by
    obtain ⟨-, a, inner, rfl⟩ := (comes c).1 ok
    rw [holds]
    exact exact.held a inner

end RedisClient.Json
