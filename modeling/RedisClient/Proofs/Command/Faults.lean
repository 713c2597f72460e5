import RedisClient.Command.Call

/-!
# Faults of arguments

`Param.Faulty` says what is wrong with an argument, and of which class the complaint is, without
looking at the checks. The checks of a call agree with it: a call is refused with the class of its
first faulty argument (`Call.refusal_some`), and a call that is not refused has none
(`Call.refusal_none`).
-/

namespace RedisClient

namespace Param

/-- What may be wrong with an argument: a key without a name, keys that are missing or without a
name, missing values, or a blank password. -/
def Faulty : (p : Param) → p.Value → ArgumentKind → Prop
  | key, k, kind => k = "" ∧ kind = .key
  | keys, ks, kind | countedKeys, ks, kind => (ks = [] ∨ "" ∈ ks) ∧ kind = .keys
  | texts _, ts, kind => ts = [] ∧ kind = .arguments
  | password, p, kind => (∀ c ∈ p.toList, Text.isBlank c = true) ∧ kind = .password
  | keyPairs, d, kind => d.entries = [] ∧ kind = .arguments ∨ "" ∈ d.keys ∧ kind = .key
  | fieldPairs, d, kind => d.entries = [] ∧ kind = .arguments
  | memberScores, d, kind => d.entries = [] ∧ kind = .arguments
  | text, _, _ | int, _, _ | nat, _, _ | seconds, _, _ | score, _, _ | increment, _, _
  | bit, _, _ | side, _, _ => False

def Complaint (kind : ArgumentKind) (e : Error) : Prop := ∃ message, e = .argument kind message

theorem checkKey_some {k : String} {e : Error} (h : checkKey k = some e) :
    k = "" ∧ Complaint .key e := by
  unfold checkKey at h
  split at h
  · rename_i empty
    cases h
    exact ⟨String.isEmpty_iff.1 empty, _, rfl⟩
  · cases h

theorem checkKey_none {k : String} (h : checkKey k = none) : k ≠ "" := by
  rintro rfl
  cases h

theorem checkKeys_some {ks : List String} {e : Error} (h : checkKeys ks = some e) :
    (ks = [] ∨ "" ∈ ks) ∧ Complaint .keys e := by
  unfold checkKeys at h
  split at h
  · rename_i empty
    cases h
    exact ⟨.inl (List.isEmpty_iff.1 empty), _, rfl⟩
  · split at h
    · rename_i nameless
      cases h
      obtain ⟨k, mem, empty⟩ := List.any_eq_true.1 nameless
      rw [String.isEmpty_iff.1 empty] at mem
      exact ⟨.inr mem, _, rfl⟩
    · cases h

theorem checkKeys_none {ks : List String} (h : checkKeys ks = none) : ks ≠ [] ∧ "" ∉ ks := by
  unfold checkKeys at h
  split at h
  · cases h
  · rename_i some
    split at h
    · cases h
    · rename_i named
      exact ⟨fun empty => some (by simp [empty]),
        fun mem => named (List.any_eq_true.2 ⟨"", mem, rfl⟩)⟩

theorem checkSome_some {α : Type} {items : List α} {noun : String} {e : Error}
    (h : checkSome items.length noun = some e) : items = [] ∧ Complaint .arguments e := by
  unfold checkSome at h
  split at h
  · rename_i empty
    cases h
    exact ⟨List.length_eq_zero_iff.1 empty, _, rfl⟩
  · cases h

theorem checkSome_none {α : Type} {items : List α} {noun : String}
    (h : checkSome items.length noun = none) : items ≠ [] := by
  rintro rfl
  cases h

/-- What is refused is faulty, and the complaint is of the class of the fault. -/
theorem refusal_some {p : Param} {a : p.Value} {e : Error} (h : p.refusal? a = some e) :
    ∃ kind, p.Faulty a kind ∧ Complaint kind e := by
  cases p with
  | key =>
    obtain ⟨fault, complaint⟩ := checkKey_some h
    exact ⟨_, ⟨fault, rfl⟩, complaint⟩
  | keys =>
    obtain ⟨fault, complaint⟩ := checkKeys_some h
    exact ⟨_, ⟨fault, rfl⟩, complaint⟩
  | countedKeys =>
    obtain ⟨fault, complaint⟩ := checkKeys_some h
    exact ⟨_, ⟨fault, rfl⟩, complaint⟩
  | texts noun =>
    obtain ⟨fault, complaint⟩ := checkSome_some h
    exact ⟨_, ⟨fault, rfl⟩, complaint⟩
  | password =>
    simp only [refusal?] at h
    split at h
    · rename_i blank
      cases h
      exact ⟨_, ⟨List.all_eq_true.1 blank, rfl⟩, _, rfl⟩
    · cases h
  | keyPairs =>
    simp only [refusal?, Option.or_eq_some_iff] at h
    rcases h with h | ⟨-, h⟩
    · obtain ⟨fault, complaint⟩ := checkSome_some h
      exact ⟨_, .inl ⟨fault, rfl⟩, complaint⟩
    · obtain ⟨k, mem, h⟩ := List.exists_of_findSome?_eq_some h
      obtain ⟨rfl, complaint⟩ := checkKey_some h
      exact ⟨_, .inr ⟨mem, rfl⟩, complaint⟩
  | fieldPairs =>
    obtain ⟨fault, complaint⟩ := checkSome_some h
    exact ⟨_, ⟨fault, rfl⟩, complaint⟩
  | memberScores =>
    obtain ⟨fault, complaint⟩ := checkSome_some h
    exact ⟨_, ⟨fault, rfl⟩, complaint⟩
  | text | int | nat | seconds | score | increment | bit | side => cases h

theorem refusal_none {p : Param} {a : p.Value} (h : p.refusal? a = none) (kind : ArgumentKind) :
    ¬p.Faulty a kind := by
  intro fault
  cases p with
  | key => exact checkKey_none h fault.1
  | keys => exact fault.1.elim (checkKeys_none h).1 (checkKeys_none h).2
  | countedKeys => exact fault.1.elim (checkKeys_none h).1 (checkKeys_none h).2
  | texts noun => exact checkSome_none h fault.1
  | password =>
    have blank : Text.isBlankText a = true := List.all_eq_true.2 fault.1
    simp [refusal?, blank] at h
  | keyPairs =>
    simp only [refusal?, Option.or_eq_none_iff, List.findSome?_eq_none_iff] at h
    rcases fault with ⟨empty, -⟩ | ⟨mem, -⟩
    · exact checkSome_none h.1 empty
    · exact checkKey_none (h.2 _ mem) rfl
  | fieldPairs => exact checkSome_none h fault.1
  | memberScores => exact checkSome_none h fault.1
  | text | int | nat | seconds | score | increment | bit | side => exact fault

end Param

namespace Args

/-- The argument at a position, counted from 0, is faulty. -/
def FaultAt : (ps : List Param) → Args ps → Nat → ArgumentKind → Prop
  | [], _, _, _ => False
  | p :: _, (a, _), 0, kind => p.Faulty a kind
  | _ :: ps, (_, args), i + 1, kind => FaultAt ps args i kind

theorem refusal_some : ∀ {ps : List Param} {args : Args ps} {e : Error},
    refusal? ps args = some e → ∃ i kind, FaultAt ps args i kind ∧ Param.Complaint kind e ∧
      ∀ j < i, ∀ k, ¬FaultAt ps args j k
  | [], _, _, h => by cases h
  | p :: ps, (a, args), e, h => by
    simp only [refusal?, Option.or_eq_some_iff] at h
    rcases h with h | ⟨fine, h⟩
    · obtain ⟨kind, fault, complaint⟩ := Param.refusal_some h
      exact ⟨0, kind, fault, complaint, fun j hj => absurd hj (Nat.not_lt_zero j)⟩
    · obtain ⟨i, kind, fault, complaint, before⟩ := refusal_some h
      refine ⟨i + 1, kind, fault, complaint, fun j hj k => ?_⟩
      cases j with
      | zero => exact Param.refusal_none fine k
      | succ j => exact before j (Nat.lt_of_succ_lt_succ hj) k

theorem refusal_none : ∀ {ps : List Param} {args : Args ps},
    refusal? ps args = none → ∀ i kind, ¬FaultAt ps args i kind
  | [], _, _, _, _, fault => fault
  | p :: ps, (a, args), h, i, kind, fault => by
    simp only [refusal?, Option.or_eq_none_iff] at h
    cases i with
    | zero => exact Param.refusal_none h.1 kind fault
    | succ i => exact refusal_none h.2 i kind fault

end Args

namespace Call

variable {c : Call}

def FaultAt (c : Call) : Nat → ArgumentKind → Prop := Args.FaultAt c.method.spec.params c.args

structure FirstFault (c : Call) (i : Nat) (kind : ArgumentKind) : Prop where
  fault : c.FaultAt i kind
  first : ∀ j < i, ∀ k, ¬c.FaultAt j k

/-- A refused call has a faulty argument, and the complaint is about the first one. -/
theorem refusal_some {e : Error} (h : c.refusal? = some e) :
    ∃ i kind, c.FirstFault i kind ∧ Param.Complaint kind e := by
  obtain ⟨i, kind, fault, complaint, first⟩ := Args.refusal_some h
  exact ⟨i, kind, ⟨fault, first⟩, complaint⟩

theorem refusal_none (h : c.refusal? = none) (i : Nat) (kind : ArgumentKind) :
    ¬c.FaultAt i kind := Args.refusal_none h i kind

theorem refusal_eq_none (faultless : ∀ i kind, ¬c.FaultAt i kind) : c.refusal? = none := by
  cases refused : c.refusal? with
  | none => rfl
  | some e =>
    obtain ⟨i, kind, first, -⟩ := refusal_some refused
    exact absurd first.fault (faultless i kind)

end Call

end RedisClient
