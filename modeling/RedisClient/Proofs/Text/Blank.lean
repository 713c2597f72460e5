import Mathlib.Data.List.DropRight
import RedisClient.Config.Basic

/-!
# Trimming

A text is left with nothing exactly if it is blank (`isEmpty_trimmed`), and a text that has been
trimmed is trimmed (`trimmed_trimmed`). So it makes no difference to an option how often it is
trimmed or checked (`trimmedUnlessBlank_idem`, `unlessBlank_idem`).
-/

namespace RedisClient

namespace Text

theorem trimEnd_eq (s : List Char) : trimEnd s = s.rdropWhile isBlank := rfl

theorem trim_eq_nil_iff {s : List Char} : trim s = [] ↔ ∀ c ∈ s, isBlank c = true := by
  rw [trim, trimEnd_eq, List.rdropWhile_eq_nil_iff]
  constructor
  · intro blank c mem
    rw [← List.takeWhile_append_dropWhile (p := isBlank) (l := s), List.mem_append] at mem
    exact mem.elim List.mem_takeWhile_imp (blank c)
  · exact fun blank c mem => blank c ((List.dropWhile_suffix isBlank).subset mem)

/-- Nothing is lost at the front of a text whose first character is not blank. -/
theorem dropWhile_trimEnd {s : List Char} (h : s.dropWhile isBlank = s) :
    (trimEnd s).dropWhile isBlank = trimEnd s := by
  rw [trimEnd_eq]
  obtain ⟨rest, eq⟩ := List.rdropWhile_prefix (p := isBlank) s
  cases kept : s.rdropWhile isBlank with
  | nil => rfl
  | cons c front =>
    rw [kept] at eq
    have first : ¬isBlank c = true := by
      intro blank
      rw [← eq, List.cons_append, List.dropWhile_cons_of_pos blank] at h
      have shorter := congrArg List.length h
      have le := (List.dropWhile_suffix (l := front ++ rest) isBlank).length_le
      rw [List.length_cons] at shorter
      omega
    exact List.dropWhile_cons_of_neg first

theorem mem_of_mem_trim {s : List Char} {c : Char} (mem : c ∈ trim s) : c ∈ s :=
  (List.dropWhile_suffix isBlank).subset ((List.rdropWhile_prefix (p := isBlank) _).subset mem)

/-- A text with no blank character at either end is left as it is. -/
theorem trim_eq_self {s : List Char} (front : ∀ c, s.head? = some c → ¬isBlank c = true)
    (back : ∀ c, s.getLast? = some c → ¬isBlank c = true) : trim s = s := by
  have kept : s.dropWhile isBlank = s := by
    cases s with
    | nil => rfl
    | cons c rest => exact List.dropWhile_cons_of_neg (front c rfl)
  rw [trim, kept, trimEnd_eq, List.rdropWhile_eq_self_iff]
  intro some
  exact back _ (List.getLast?_eq_some_getLast some)

/-- A text and what is left of it after trimming have the same first character that is not blank. -/
theorem head?_trim (s : List Char) : (trim s).head? = (s.dropWhile isBlank).head? := by
  obtain ⟨rest, eq⟩ := List.rdropWhile_prefix (p := isBlank) (s.dropWhile isBlank)
  have first := List.head?_dropWhile_not isBlank s
  rw [trim, trimEnd_eq]
  cases kept : (s.dropWhile isBlank).rdropWhile isBlank with
  | cons c front =>
    rw [kept] at eq
    rw [← eq]
    rfl
  | nil =>
    rw [List.rdropWhile_eq_nil_iff] at kept
    cases left : s.dropWhile isBlank with
    | nil => rfl
    | cons c others =>
      rw [left] at first kept
      have blank := kept c List.mem_cons_self
      rw [show isBlank c = false from first] at blank
      cases blank

theorem not_blank_of_head?_trim {s : List Char} {c : Char} (first : (trim s).head? = some c) :
    ¬isBlank c = true := by
  have left := List.head?_dropWhile_not isBlank s
  rw [head?_trim] at first
  rw [first] at left
  exact Bool.eq_false_iff.1 left

theorem trim_trim (s : List Char) : trim (trim s) = trim s := by
  have front : (trim s).dropWhile isBlank = trim s :=
    dropWhile_trimEnd (List.dropWhile_idempotent _ _)
  rw [trim, front, trim, trimEnd_eq, trimEnd_eq, List.rdropWhile_idempotent]

theorem trimmed_trimmed (s : String) : trimmed (trimmed s) = trimmed s := by
  simp only [trimmed, String.toList_ofList, trim_trim]

/-- Nothing is left of blank texts, and of no others. -/
theorem isEmpty_trimmed (s : String) : (trimmed s).isEmpty = isBlankText s := by
  rw [Bool.eq_iff_iff, String.isEmpty_iff, isBlankText, List.all_eq_true, ← trim_eq_nil_iff,
    trimmed, ← String.toList_eq_nil_iff, String.toList_ofList]

end Text

theorem unlessBlank_idem (t : Option String) : unlessBlank (unlessBlank t) = unlessBlank t := by
  simp [unlessBlank, Option.filter_filter]

theorem trimmedUnlessBlank_some (s : String) :
    trimmedUnlessBlank (some s) = if Text.isBlankText s then none else some (Text.trimmed s) := by
  simp only [trimmedUnlessBlank, Option.map_some, Option.filter_some, Text.isEmpty_trimmed]
  cases Text.isBlankText s <;> rfl

theorem trimmedUnlessBlank_idem (t : Option String) :
    trimmedUnlessBlank (trimmedUnlessBlank t) = trimmedUnlessBlank t := by
  cases t with
  | none => rfl
  | some s =>
    have blank : Text.isBlankText (Text.trimmed s) = Text.isBlankText s := by
      rw [← Text.isEmpty_trimmed, Text.trimmed_trimmed, Text.isEmpty_trimmed]
    rw [trimmedUnlessBlank_some]
    split
    · rfl
    · rename_i some
      rw [trimmedUnlessBlank_some, blank, if_neg some, Text.trimmed_trimmed]

end RedisClient
