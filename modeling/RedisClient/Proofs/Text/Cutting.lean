import Mathlib.Logic.Basic
import RedisClient.Text.Split

/-!
# Cutting and joining

A cut at the first or the last separator is known by what it gives: the parts join to the text, and
the part on the one side holds no separator (`cutFirst_eq_some`, `cutLast_eq_some`). In the same way
the parts between all separators are the only ones that hold none and join to the text
(`splitOn_eq_iff`).
-/

namespace RedisClient.Text

variable {sep : Char} {s before after : List Char} {parts : List (List Char)}

/-! ## The first separator -/

theorem cutFirst_eq_none : cutFirst sep s = none ↔ sep ∉ s := by
  induction s with
  | nil => simp [cutFirst]
  | cons c rest ih =>
    rw [cutFirst, List.mem_cons, not_or, ← ih]
    by_cases here : c = sep
    · simp [here]
    · simp [here, Ne.symm here]

theorem cutFirst_append (free : sep ∉ before) :
    cutFirst sep (before ++ sep :: after) = some (before, after) := by
  induction before with
  | nil => simp [cutFirst]
  | cons c rest ih =>
    rw [List.mem_cons, not_or] at free
    rw [List.cons_append, cutFirst, if_neg (Ne.symm free.1), ih free.2]
    rfl

theorem cutFirst_eq_some :
    cutFirst sep s = some (before, after) ↔ s = before ++ sep :: after ∧ sep ∉ before := by
  constructor
  · intro cut
    induction s generalizing before with
    | nil => cases cut
    | cons c rest ih =>
      rw [cutFirst] at cut
      by_cases here : c = sep
      · rw [if_pos here] at cut
        cases cut
        exact ⟨by rw [here]; rfl, List.not_mem_nil⟩
      · rw [if_neg here] at cut
        obtain ⟨⟨front, back⟩, cut', eq⟩ := Option.map_eq_some_iff.1 cut
        cases eq
        obtain ⟨rfl, free⟩ := ih cut'
        exact ⟨rfl, List.not_mem_cons_of_ne_of_not_mem (Ne.symm here) free⟩
  · rintro ⟨rfl, free⟩
    exact cutFirst_append free

/-! ## The last separator -/

theorem cutLast_eq_none : cutLast sep s = none ↔ sep ∉ s := by
  induction s with
  | nil => simp [cutLast]
  | cons c rest ih =>
    rw [cutLast, List.mem_cons, not_or, ← ih]
    cases later : cutLast sep rest with
    | some cut => simp
    | none => simp [eq_comm]

theorem cutLast_append (free : sep ∉ after) :
    cutLast sep (before ++ sep :: after) = some (before, after) := by
  induction before with
  | nil => simp [cutLast, cutLast_eq_none.2 free]
  | cons c rest ih => rw [List.cons_append, cutLast, ih]

theorem cutLast_eq_some :
    cutLast sep s = some (before, after) ↔ s = before ++ sep :: after ∧ sep ∉ after := by
  constructor
  · intro cut
    induction s generalizing before with
    | nil => cases cut
    | cons c rest ih =>
      rw [cutLast] at cut
      cases later : cutLast sep rest with
      | some pair =>
        simp only [later] at cut
        cases cut
        obtain ⟨rfl, free⟩ := ih later
        exact ⟨rfl, free⟩
      | none =>
        simp only [later] at cut
        by_cases here : c = sep
        · rw [if_pos here] at cut
          cases cut
          exact ⟨by rw [here]; rfl, cutLast_eq_none.1 later⟩
        · rw [if_neg here] at cut
          cases cut
  · rintro ⟨rfl, free⟩
    exact cutLast_append free

/-! ## All separators -/

theorem not_mem_of_mem_splitOn (sep : Char) (s : List Char) :
    ∀ part ∈ s.splitOn sep, sep ∉ part := by
  induction s with
  | nil => simp
  | cons c rest ih =>
    rw [List.splitOn_cons_eq_if_modifyHead]
    split
    · simpa using ih
    · rename_i other
      cases parts : rest.splitOn sep with
      | nil => exact absurd parts (List.splitOn_ne_nil sep rest)
      | cons part others =>
        rw [parts, List.forall_mem_cons] at ih
        rw [List.modifyHead_cons, List.forall_mem_cons]
        exact ⟨List.not_mem_cons_of_ne_of_not_mem (Ne.symm (by simpa using other)) ih.1, ih.2⟩

theorem splitOn_eq_iff : s.splitOn sep = parts ↔
    parts ≠ [] ∧ [sep].intercalate parts = s ∧ ∀ part ∈ parts, sep ∉ part := by
  constructor
  · rintro rfl
    exact ⟨List.splitOn_ne_nil sep s, List.intercalate_splitOn sep, not_mem_of_mem_splitOn sep s⟩
  · rintro ⟨some, rfl, free⟩
    exact List.splitOn_intercalate sep free some

end RedisClient.Text
