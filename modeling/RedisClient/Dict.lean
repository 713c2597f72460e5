/-!
# Dictionaries

A dictionary holds one value for each of its keys and lists them in the order of the keys. Putting
a value under a key that is there replaces the old one.
-/

namespace RedisClient

/-- A finite map from texts, in ascending order. -/
structure Dict (α : Type) where
  entries : List (String × α)
  sorted : entries.Pairwise (fun a b => a.1 < b.1)

namespace Dict

variable {α : Type}

/-- Puts a value into a sorted list of entries. -/
def putEntry (key : String) (value : α) : List (String × α) → List (String × α)
  | [] => [(key, value)]
  | (k, v) :: rest =>
    if key < k then (key, value) :: (k, v) :: rest
    else if key = k then (key, value) :: rest
    else (k, v) :: putEntry key value rest

theorem mem_putEntry {key : String} {value : α} {entries : List (String × α)} {e : String × α}
    (h : e ∈ putEntry key value entries) : e = (key, value) ∨ e ∈ entries := by
  induction entries with
  | nil => simpa [putEntry] using h
  | cons entry rest ih =>
    obtain ⟨k, v⟩ := entry
    simp only [putEntry] at h
    split at h
    · simpa using h
    · split at h
      · simp only [List.mem_cons] at h ⊢
        exact h.imp_right .inr
      · simp only [List.mem_cons] at h ⊢
        rcases h with h | h
        · exact .inr (.inl h)
        · exact (ih h).imp_right .inr

theorem putEntry_sorted (key : String) (value : α) (entries : List (String × α))
    (h : entries.Pairwise (fun a b => a.1 < b.1)) :
    (putEntry key value entries).Pairwise (fun a b => a.1 < b.1) := by
  induction entries with
  | nil => simp [putEntry]
  | cons entry rest ih =>
    obtain ⟨k, v⟩ := entry
    rw [List.pairwise_cons] at h
    simp only [putEntry]
    split
    · rename_i lt
      refine List.pairwise_cons.2 ⟨fun e he => ?_, List.pairwise_cons.2 h⟩
      rcases List.mem_cons.1 he with rfl | he
      · exact lt
      · exact String.lt_trans lt (h.1 e he)
    · split
      · rename_i eq
        subst eq
        exact List.pairwise_cons.2 h
      · rename_i nlt ne
        refine List.pairwise_cons.2 ⟨fun e he => ?_, ih h.2⟩
        rcases mem_putEntry he with rfl | he
        · exact Std.lt_of_le_of_ne (String.not_lt.1 nlt) (Ne.symm ne)
        · exact h.1 e he

def empty : Dict α := ⟨[], .nil⟩

def put (d : Dict α) (key : String) (value : α) : Dict α :=
  ⟨putEntry key value d.entries, putEntry_sorted key value d.entries d.sorted⟩

/-- The dictionary of a list of entries; of two entries for a key the later one counts. -/
def ofList (entries : List (String × α)) : Dict α :=
  entries.foldl (fun d e => d.put e.1 e.2) empty

def get? (d : Dict α) (key : String) : Option α :=
  (d.entries.find? (·.1 == key)).map (·.2)

theorem find?_putEntry (key k : String) (value : α) (entries : List (String × α)) :
    ((putEntry k value entries).find? (·.1 == key)).map (·.2) =
      if k = key then some value else (entries.find? (·.1 == key)).map (·.2) := by
  induction entries with
  | nil => by_cases hk : k = key <;> simp [putEntry, hk]
  | cons entry rest ih =>
    obtain ⟨k', v'⟩ := entry
    simp only [putEntry]
    split
    · by_cases hk : k = key <;> simp [hk]
    · split
      · rename_i eq
        subst eq
        by_cases hk : k = key <;> simp [hk]
      · rename_i ne
        by_cases hk' : k' = key
        · subst hk'
          simp [ne]
        · simpa [List.find?_cons, beq_false_of_ne hk'] using ih

theorem get?_empty (key : String) : (empty : Dict α).get? key = none := rfl

/-- A key that was put has its new value, and every other key the value it had. -/
theorem get?_put (d : Dict α) (key k : String) (value : α) :
    (d.put k value).get? key = if k = key then some value else d.get? key :=
  find?_putEntry key k value d.entries

def size (d : Dict α) : Nat := d.entries.length

def keys (d : Dict α) : List String := d.entries.map (·.1)

instance [DecidableEq α] : DecidableEq (Dict α) := fun a b =>
  if h : a.entries = b.entries then
    isTrue (by cases a; cases b; cases h; rfl)
  else isFalse fun e => h (e ▸ rfl)

end Dict

end RedisClient
