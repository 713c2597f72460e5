import RedisClient.Seeds

/-!
# Gathering the nodes of a cluster

The nodes are compared with the first one, in what that one settles: `Seeds.gather_eq_ok` says when
they are gathered. `Seeds.gather_decides` reads it for nodes that were built apart from each other,
with options of their own.
-/

namespace RedisClient

namespace Target

variable {t : Target}

/-- The target asks for a database that a cluster does not have. -/
def WantsDatabase (t : Target) : Prop := ∃ db, t.database = some db ∧ db ≠ 0

theorem wantsDatabase_iff : t.WantsDatabase ↔ t.databaseIndex ≠ 0 := by
  rw [WantsDatabase, databaseIndex]
  cases t.database with
  | none => simp
  | some db => simp

instance : Decidable t.WantsDatabase := decidable_of_iff _ wantsDatabase_iff.symm

def SameTransport (t u : Target) : Prop := t.ssl = u.ssl ∧ t.verifyPeer = u.verifyPeer

end Target

namespace Seeds

variable {first node : Target} {targets : List Target} {seeds : Seeds}

theorem encryption_endpoint (t : Target) :
    encryption t.endpoint = if t.ssl then some (!t.verifyPeer) else none := by
  rw [Target.endpoint]
  by_cases encrypted : t.ssl
  · rw [if_pos encrypted, if_pos encrypted]
    rfl
  · rw [if_neg encrypted, if_neg encrypted]
    rfl

/-- The node has the password of the first one, if that has one, and its transport, if that is an
encrypted one. -/
structure Agrees (first node : Target) : Prop where
  password : first.password.isSome → node.password = first.password
  transport : first.ssl → node.SameTransport first

theorem encryption_agrees : ((encryption first.endpoint).isSome →
      encryption node.endpoint = encryption first.endpoint) ↔
    (first.ssl → node.SameTransport first) := by
  rw [encryption_endpoint, encryption_endpoint, Target.SameTransport]
  by_cases encrypted : first.ssl
  · by_cases other : node.ssl
    · simp [encrypted, other]
    · simp [encrypted, other]
  · simp [encrypted]

theorem disagreement?_eq_none : disagreement? first node = none ↔ Agrees first node := by
  rw [disagreement?]
  by_cases password : first.password.isSome ∧ node.password ≠ first.password
  · rw [if_pos password]
    constructor
    · intro agreed
      cases agreed
    · intro agreed
      exact absurd (agreed.password password.1) password.2
  · rw [if_neg password]
    have same : first.password.isSome → node.password = first.password := fun some =>
      Decidable.not_not.1 fun other => password ⟨some, other⟩
    by_cases transport : (encryption first.endpoint).isSome ∧
        encryption node.endpoint ≠ encryption first.endpoint
    · rw [if_pos transport]
      constructor
      · intro agreed
        cases agreed
      · intro agreed
        exact absurd (encryption_agrees.2 agreed.transport transport.1) transport.2
    · rw [if_neg transport]
      refine ⟨fun _ => ⟨same, encryption_agrees.1 fun some => ?_⟩, fun _ => rfl⟩
      exact Decidable.not_not.1 fun other => transport ⟨some, other⟩

theorem disagreement?_kind {failure : Failure} (differ : disagreement? first node = some failure) :
    failure.kind = .invalidClientConfig := by
  rw [disagreement?] at differ
  split at differ
  · cases differ
    rfl
  · split at differ
    · cases differ
      rfl
    · cases differ

/-- Nodes are gathered if the first one can do with the only database, and the others agree with
it. -/
theorem gather_eq_ok : gather targets = .ok seeds ↔ seeds.targets = targets ∧
    ¬seeds.first.WantsDatabase ∧ ∀ node ∈ seeds.others, Agrees seeds.first node := by
  cases targets with
  | nil =>
    constructor
    · intro gathered
      cases gathered
    · rintro ⟨none, -⟩
      cases none
  | cons first others =>
    rw [gather]
    by_cases index : first.databaseIndex ≠ 0
    · rw [if_pos index]
      constructor
      · intro gathered
        cases gathered
      · rintro ⟨same, plain, -⟩
        cases same
        exact absurd (Target.wantsDatabase_iff.2 index) plain
    · have plain : ¬first.WantsDatabase := mt Target.wantsDatabase_iff.1 index
      rw [if_neg index]
      cases differ : others.findSome? (disagreement? first) with
      | some failure =>
        constructor
        · intro gathered
          cases gathered
        · rintro ⟨same, -, agreed⟩
          cases same
          have none : seeds.others.findSome? (disagreement? seeds.first) = none :=
            List.findSome?_eq_none_iff.2 fun node mem => disagreement?_eq_none.2 (agreed node mem)
          rw [none] at differ
          cases differ
      | none =>
        have agreed : ∀ node ∈ others, Agrees first node := fun node mem =>
          disagreement?_eq_none.1 (List.findSome?_eq_none_iff.1 differ node mem)
        constructor
        · intro gathered
          cases gathered
          exact ⟨rfl, plain, agreed⟩
        · rintro ⟨same, -⟩
          cases same
          rfl

/-- Nodes that are not gathered are a fault of the configuration. -/
theorem gather_error {e : Error} (refused : gather targets = .error e) :
    ∃ message, e = .configuration message := by
  cases targets with
  | nil =>
    cases refused
    exact ⟨_, rfl⟩
  | cons first others =>
    rw [gather] at refused
    split at refused
    · cases refused
      exact ⟨_, rfl⟩
    · split at refused
      · rename_i failure differ
        cases refused
        obtain ⟨node, -, differs⟩ := List.exists_of_findSome?_eq_some differ
        exact ⟨"cluster seed nodes: " ++ failure.text, by
          rw [Failure.toConnectError, disagreement?_kind differs]
          rfl⟩
      · cases refused

/-- Nodes are refused, as a fault of the configuration, if the first one asks for a database that a
cluster does not have. They are gathered, all of them, if none does so, all have one password, and
all have the transport of the first one, or that one is not encrypted. -/
theorem gather_decides (first : Target) (others : List Target) :
    (∀ db, first.database = some db → db ≠ 0 →
      gather (first :: others) = .error (.configuration ("database " ++ toString db.toInt ++
        " requested but Redis Cluster only supports database 0"))) ∧
    ((∀ node ∈ others, node.password = first.password) →
      (first.ssl → ∀ node ∈ others, node.SameTransport first) →
      (∀ node ∈ first :: others, ¬node.WantsDatabase) →
      gather (first :: others) = .ok ⟨first, others⟩) ∧
    ∀ e, gather (first :: others) = .error e → ∃ message, e = .configuration message := by
  refine ⟨?_, ?_, fun e => gather_error⟩
  · intro db asked other
    have index : first.databaseIndex = db := by
      rw [Target.databaseIndex, asked, Option.getD_some]
    rw [gather, index, if_pos other]
  · intro password transport plain
    rw [gather_eq_ok]
    refine ⟨rfl, plain first List.mem_cons_self, fun node mem => ?_⟩
    exact ⟨fun _ => password node mem, fun encrypted => transport encrypted node mem⟩

/-- One password and no database do not make nodes alike, and the first node does not speak for the
databases of the others. -/
theorem first_node_counts :
    let node : Options → Target := .build ⟨"n", 7000⟩ none
    let mixed := [node { ssl := true }, node {}]
    let later := [node {}, node { database := some 5 }]
    (mixed ≠ [] ∧ (∀ t ∈ mixed, ∀ u ∈ mixed, t.password = u.password) ∧
      (∀ t ∈ mixed, ¬t.WantsDatabase) ∧ ∀ seeds, gather mixed ≠ .ok seeds) ∧
    (∃ t ∈ later, t.WantsDatabase) ∧ ∃ seeds, gather later = .ok seeds := by
  refine ⟨⟨by decide, by decide, by decide, fun seeds gathered => ?_⟩, by decide, ⟨_, rfl⟩⟩
  cases gathered

end Seeds

end RedisClient
