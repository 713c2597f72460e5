import RedisClient.Proofs.Reply.Reading

/-!
# The two forms of an aggregate

The older version of the server's protocol knows arrays only: what the newer one sends as a set comes
as an array of the same elements, and what it sends as a map as an array in which keys and values
alternate (`Reply.alternate`). The first error in a reply is the same in both forms, and so is what is
taken out of the elements: a list or a set of texts (`Shape.read_set`), or a dictionary
(`Shape.read_alternate`). An array from which a key is left over without a value is of no use as a
dictionary (`Reply.toTextMap_odd`).
-/

namespace RedisClient

namespace Reply

def alternate {α : Type} (entries : List (α × α)) : List α :=
  entries.flatMap fun entry => [entry.1, entry.2]

theorem pairs?_alternate {α : Type} (entries : List (α × α)) :
    pairs? (alternate entries) = some entries := by
  induction entries with
  | nil => rfl
  | cons entry rest ih =>
    show (pairs? (alternate rest)).map ((entry.1, entry.2) :: ·) = some (entry :: rest)
    rw [ih]
    rfl

/-- Something is left over from a list of odd length only. -/
theorem pairs?_eq_none {α : Type} : ∀ {l : List α}, pairs? l = none ↔ l.length % 2 = 1
  | [] => by simp [pairs?]
  | [_] => by simp [pairs?]
  | a :: b :: rest => by
    rw [pairs?, Option.map_eq_none_iff, pairs?_eq_none, List.length_cons, List.length_cons]
    omega

theorem errorsIn_alternate (entries : List (Reply × Reply)) :
    errorsIn (alternate entries) = errorsAmong entries := by
  induction entries with
  | nil => rfl
  | cons entry rest ih =>
    show errors entry.1 ++ (errors entry.2 ++ errorsIn (alternate rest)) = errorsAmong (entry :: rest)
    rw [ih, errorsAmong, List.append_assoc]

theorem toTextMap_alternate (entries : List (Reply × Reply)) :
    (array (alternate entries)).toTextMap = (map entries).toTextMap := by
  simp only [toTextMap, pairs?_alternate]

theorem toTextMap_odd {items : List Reply} (odd : items.length % 2 = 1) :
    (array items).toTextMap =
      .error ((array items).incompatible "Response type not map compatible") := by
  simp only [toTextMap, pairs?_eq_none.2 odd]

end Reply

namespace Shape

/-- What is wanted are all elements of the reply, as a list or a set of texts. -/
def Collects (shape : Shape) : Prop := shape = set ∨ shape = texts ∨ shape = maybeTexts

instance (shape : Shape) : Decidable shape.Collects :=
  inferInstanceAs (Decidable (shape = set ∨ shape = texts ∨ shape = maybeTexts))

variable {shape : Shape}

theorem Collects.not_crashes (collects : shape.Collects) (r : Reply) : shape.crashes r = false := by
  rcases collects with rfl | rfl | rfl <;> rfl

/-- Two replies with the same errors, out of which the same value is taken, are read alike. -/
theorem read_congr {r r' : Reply} (errors : r.errors = r'.errors)
    (value : shape.ofValue r = shape.ofValue r') : shape.read r = shape.read r' := by
  simp only [read, Reply.firstError?_eq_head?, errors, value]

/-- Elements are read alike from an array and from a set. -/
theorem read_set (collects : shape.Collects) (items : List Reply) :
    shape.read (.set items) = shape.read (.array items) := by
  refine read_congr rfl ?_
  rcases collects with rfl | rfl | rfl <;> rfl

/-- A dictionary is read alike from a map and from its keys and values in turn. -/
theorem read_alternate (entries : List (Reply × Reply)) :
    map.read (.array (Reply.alternate entries)) = map.read (.map entries) := by
  refine read_congr (Reply.errorsIn_alternate entries) ?_
  show (Reply.toTextMap _).map Answer.map = (Reply.toTextMap _).map Answer.map
  rw [Reply.toTextMap_alternate]

/-- No text is left out of a dictionary: there is none if one is left over. -/
theorem ofValue_odd {items : List Reply} (odd : items.length % 2 = 1) :
    map.ofValue (.array items) =
      .error ((Reply.array items).incompatible "Response type not map compatible") := by
  show (Reply.toTextMap _).map Answer.map = _
  rw [Reply.toTextMap_odd odd]
  rfl

end Shape

end RedisClient
