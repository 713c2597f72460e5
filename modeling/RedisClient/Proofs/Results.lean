import Mathlib.Data.List.Forall2

/-!
# Lists of results

A list that is gone through with a function that may fail comes to all the results, in order
(`mapM_eq_ok`), or to the first failure (`mapM_eq_error`).
-/

namespace RedisClient.Results

variable {α β ε : Type} {f : α → Except ε β} {a : α} {l : List α} {b : β} {bs : List β} {e : ε}

theorem map_eq_ok {x : Except ε α} {g : α → β} : x.map g = .ok b ↔ ∃ a, x = .ok a ∧ g a = b := by
  cases x <;> simp [Except.map]

theorem mapM_cons_ok (first : f a = .ok b) : (a :: l).mapM f = (l.mapM f).map (b :: ·) := by
  rw [List.mapM_cons, first]
  cases l.mapM f <;> rfl

theorem mapM_cons_error (first : f a = .error e) : (a :: l).mapM f = .error e := by
  rw [List.mapM_cons, first]
  rfl

/-- There is a result for each element, in the same order. -/
theorem mapM_eq_ok : l.mapM f = .ok bs ↔ List.Forall₂ (fun a b => f a = .ok b) l bs := by
  induction l generalizing bs with
  | nil =>
    rw [List.mapM_nil, List.forall₂_nil_left_iff]
    constructor
    · intro all
      cases all
      rfl
    · rintro rfl
      rfl
  | cons a l ih =>
    rw [List.forall₂_cons_left_iff]
    constructor
    · intro all
      cases first : f a with
      | error e =>
        rw [mapM_cons_error first] at all
        cases all
      | ok b =>
        rw [mapM_cons_ok first] at all
        cases others : l.mapM f with
        | error e =>
          rw [others] at all
          cases all
        | ok rest =>
          rw [others] at all
          cases all
          exact ⟨b, rest, rfl, ih.1 others, rfl⟩
    · rintro ⟨b, rest, first, others, rfl⟩
      rw [mapM_cons_ok first, ih.2 others]
      rfl

/-- What was written with an inverse of the function is the result again. -/
theorem mapM_map {g : β → α} (inverse : ∀ b, f (g b) = .ok b) (l : List β) :
    (l.map g).mapM f = .ok l := by
  rw [mapM_eq_ok, List.forall₂_map_left_iff, List.forall₂_same]
  exact fun b _ => inverse b

/-- Every result comes from an element. -/
theorem mem_of_mapM_eq_ok (all : l.mapM f = .ok bs) (mem : b ∈ bs) : ∃ a ∈ l, f a = .ok b := by
  rw [mapM_eq_ok] at all
  induction all with
  | nil => cases mem
  | @cons a c l bs first _ ih =>
    rcases List.mem_cons.1 mem with rfl | mem
    · exact ⟨a, List.mem_cons_self, first⟩
    · obtain ⟨d, found, result⟩ := ih mem
      exact ⟨d, List.mem_cons_of_mem a found, result⟩

/-- The failure is that of an element before which there is none. -/
theorem mapM_eq_error : l.mapM f = .error e ↔ ∃ before a after, l = before ++ a :: after ∧
    (∀ x ∈ before, ∃ y, f x = .ok y) ∧ f a = .error e := by
  constructor
  · intro failed
    induction l with
    | nil => cases failed
    | cons a l ih =>
      cases first : f a with
      | error e' =>
        rw [mapM_cons_error first] at failed
        cases failed
        exact ⟨[], a, l, rfl, by simp, first⟩
      | ok b =>
        rw [mapM_cons_ok first] at failed
        have later : l.mapM f = .error e := by
          cases others : l.mapM f with
          | error e' =>
            rw [others] at failed
            cases failed
            rfl
          | ok rest =>
            rw [others] at failed
            cases failed
        obtain ⟨before, c, after, rfl, fine, fails⟩ := ih later
        exact ⟨a :: before, c, after, rfl, List.forall_mem_cons.2 ⟨⟨b, first⟩, fine⟩, fails⟩
  · rintro ⟨before, a, after, rfl, fine, fails⟩
    induction before with
    | nil => exact mapM_cons_error fails
    | cons x before ih =>
      obtain ⟨⟨y, first⟩, others⟩ := List.forall_mem_cons.1 fine
      rw [List.cons_append, mapM_cons_ok first, ih others]
      rfl

end RedisClient.Results
