import RedisClient.Proofs.Command.Distinct

/-!
# Commands that take a dictionary

A dictionary has its entries in no order that a caller could rely on. `MapCommand.write` goes
through them in an order that is given, and checks each one as it comes to it: `MapCommand.written`
says that the order decides about the order of the pairs in the command, and about nothing else.
-/

namespace RedisClient

/-- The commands that take a dictionary, with their other arguments. -/
inductive MapCommand : Type → Type
  | mset : MapCommand String
  | msetnx : MapCommand String
  | hmset (key : String) : MapCommand String
  | zadd (key : String) : MapCommand Binary64

namespace MapCommand

variable {α : Type}

def call : MapCommand α → Dict α → Call
  | mset, d => ⟨.mset, d, ()⟩
  | msetnx, d => ⟨.msetnx, d, ()⟩
  | hmset key, d => ⟨.hmset, key, d, ()⟩
  | zadd key, d => ⟨.zadd, key, d, ()⟩

def opening : MapCommand α → List String
  | mset => ["MSET"]
  | msetnx => ["MSETNX"]
  | hmset key => ["HMSET", key]
  | zadd key => ["ZADD", key]

def pair : MapCommand α → String × α → List String
  | mset, (key, value) | msetnx, (key, value) | hmset _, (key, value) => [key, value]
  | zadd _, (member, score) => [scoreText score, member]

/-- Why the command is refused before its entries are looked at; there are `count` of them. -/
def refusal? (m : MapCommand α) (count : Nat) : Option Error :=
  match m with
  | mset | msetnx => Param.checkSome count "key-value pair"
  | hmset key => (Param.checkKey key).or (Param.checkSome count "field-value pair")
  | zadd key => (Param.checkKey key).or (Param.checkSome count "member")

def entryRefusal? : MapCommand α → String × α → Option Error
  | mset, entry | msetnx, entry => Param.checkKey entry.1
  | hmset _, _ | zadd _, _ => none

/-- Adds entries to the words, one after the other, unless one of them is refused. -/
def writeEntries (m : MapCommand α) (words : List String) :
    List (String × α) → Except Error (List String)
  | [] => .ok words
  | entry :: rest =>
    match m.entryRefusal? entry with
    | some e => .error e
    | none => m.writeEntries (words ++ m.pair entry) rest

/-- The words of the command with the entries in this order, as the loops of `pairs_command`,
`hmset` and `zadd` come to them. -/
def write (m : MapCommand α) (order : List (String × α)) : Except Error (List String) :=
  match m.refusal? order.length with
  | some e => .error e
  | none => m.writeEntries m.opening order

/-- Nothing is wrong with the arguments: a key that has to have a name has one, and there are
entries. -/
def Fine : MapCommand α → List (String × α) → Prop
  | mset, order | msetnx, order => order ≠ [] ∧ ∀ entry ∈ order, entry.1 ≠ ""
  | hmset key, order | zadd key, order => key ≠ "" ∧ order ≠ []

/-! ## What comes of writing -/

variable {m : MapCommand α} {d : Dict α} {order l : List (String × α)}

theorem writeEntries_eq (m : MapCommand α) (words : List String) (order : List (String × α)) :
    m.writeEntries words order =
      (order.findSome? m.entryRefusal?).elim (.ok (words ++ order.flatMap m.pair)) .error := by
  induction order generalizing words with
  | nil => simp [writeEntries]
  | cons entry rest ih =>
    rw [writeEntries, List.findSome?_cons]
    cases m.entryRefusal? entry with
    | some e => rfl
    | none => rw [ih, List.flatMap_cons, List.append_assoc]

theorem write_eq (m : MapCommand α) (order : List (String × α)) : m.write order =
    ((m.refusal? order.length).or (order.findSome? m.entryRefusal?)).elim
      (.ok (m.opening ++ order.flatMap m.pair)) .error := by
  rw [write]
  cases m.refusal? order.length with
  | some e => rfl
  | none => exact m.writeEntries_eq m.opening order

/-- The command is written unless there is something wrong. -/
theorem write_fine (fine : m.Fine order) :
    m.write order = .ok (m.opening ++ order.flatMap m.pair) := by
  have named {key : String} (named : key ≠ "") : Param.checkKey key = none :=
    if_neg (mt String.isEmpty_iff.1 named)
  have several (noun : String) (some : order ≠ []) : Param.checkSome order.length noun = none :=
    if_neg (mt List.length_eq_zero_iff.1 some)
  have unrefused : (m.refusal? order.length).or (order.findSome? m.entryRefusal?) = none := by
    rw [Option.or_eq_none_iff, List.findSome?_eq_none_iff]
    cases m with
    | mset | msetnx => exact ⟨several _ fine.1, fun entry mem => named (fine.2 entry mem)⟩
    | hmset key | zadd key =>
      refine ⟨?_, fun _ _ => rfl⟩
      rw [refusal?, named fine.1, several _ fine.2]
      rfl
  rw [write_eq, unrefused]
  rfl

/-- All entries that are refused are refused for the same reason. -/
theorem entryRefusal?_unique {entry entry' : String × α} {e e' : Error}
    (h : m.entryRefusal? entry = some e) (h' : m.entryRefusal? entry' = some e') : e = e' := by
  have checkKey {k k' : String} (h : Param.checkKey k = some e)
      (h' : Param.checkKey k' = some e') : e = e' := by
    rw [(Param.checkKey_some h).1] at h
    rw [(Param.checkKey_some h').1] at h'
    exact Option.some_inj.1 (h.symm.trans h')
  cases m with
  | mset | msetnx => exact checkKey h h'
  | hmset key | zadd key => cases h

/-- So it makes no difference which of them comes first. -/
theorem findSome?_entryRefusal?_perm (same : order.Perm l) :
    order.findSome? m.entryRefusal? = l.findSome? m.entryRefusal? := by
  cases refused : l.findSome? m.entryRefusal? with
  | none =>
    rw [List.findSome?_eq_none_iff] at refused ⊢
    exact fun entry mem => refused entry (same.mem_iff.1 mem)
  | some e =>
    obtain ⟨entry, mem, reason⟩ := List.exists_of_findSome?_eq_some refused
    cases first : order.findSome? m.entryRefusal? with
    | none =>
      rw [List.findSome?_eq_none_iff] at first
      rw [first entry (same.mem_iff.2 mem)] at reason
      cases reason
    | some e' =>
      obtain ⟨entry', -, reason'⟩ := List.exists_of_findSome?_eq_some first
      rw [entryRefusal?_unique reason' reason]

/-! ## The call -/

theorem call_refusal? (m : MapCommand α) (d : Dict α) : (m.call d).refusal? =
    (m.refusal? d.entries.length).or (d.entries.findSome? m.entryRefusal?) := by
  cases m with
  | mset | msetnx =>
    simp only [call, Call.refusal?, Args.refusal?, Option.or_none, Param.refusal?, Dict.keys,
      List.findSome?_map]
    rfl
  | hmset key | zadd key =>
    -- The entries are not looked at.
    refine Eq.trans ?_ (congrArg (Option.or _) (List.findSome?_eq_none_iff.2 fun _ _ => rfl).symm)
    simp only [call, Call.refusal?, Args.refusal?, Option.or_none, Param.refusal?]
    rfl

theorem call_command (m : MapCommand α) (d : Dict α) :
    (m.call d).command = m.opening ++ d.entries.flatMap m.pair := by
  cases m with
  | mset => exact congrArg ("MSET" :: ·) (List.append_nil _)
  | msetnx => exact congrArg ("MSETNX" :: ·) (List.append_nil _)
  | hmset key => exact congrArg ("HMSET" :: key :: ·) (List.append_nil _)
  | zadd key => exact congrArg ("ZADD" :: key :: ·) (List.append_nil _)

theorem call_sends (same : order.Perm d.entries) :
    (m.call d).Sends (m.opening ++ order.flatMap m.pair) := by
  cases m with
  | mset | msetnx => exact ⟨_, rfl, _, _, (List.append_nil _).symm, ⟨order, same, rfl⟩, rfl⟩
  | hmset key | zadd key =>
    exact ⟨_, rfl, _, _, rfl, rfl, _, _, (List.append_nil _).symm, ⟨order, same, rfl⟩, rfl⟩

/-- What a command says of the list that its dictionary was collected from, with the entries of the
dictionary in this order. -/
structure Written (m : MapCommand α) (l order : List (String × α)) : Prop where
  /-- The call alone decides whether there is a command, and if not, why. -/
  outcome : m.write order =
    (m.call (.ofList l)).refusal?.elim (.ok (m.opening ++ order.flatMap m.pair)) .error
  complaint : ∀ e, (m.call (.ofList l)).refusal? = some e →
    ∃ kind message, e = .argument kind message
  sends : (m.call (.ofList l)).Sends (m.opening ++ order.flatMap m.pair)
  /-- In the order of the dictionary itself, the words are the command of the call. -/
  command : (m.call (.ofList l)).command =
    m.opening ++ (Dict.ofList l).entries.flatMap m.pair
  /-- No key has two pairs. -/
  distinct : (order.map Prod.fst).Nodup
  /-- The pairs are the last entries of the list for their keys, and those only. -/
  complete : ∀ entry, entry ∈ order ↔ Dict.LastIn entry l

theorem written (m : MapCommand α) (same : order.Perm (Dict.ofList l).entries) :
    m.Written l order where
  outcome := by
    rw [write_eq, call_refusal?, same.length_eq, findSome?_entryRefusal?_perm same]
  complaint e refused := by
    obtain ⟨i, kind, -, message, eq⟩ := Call.refusal_some refused
    exact ⟨kind, message, eq⟩
  sends := call_sends same
  command := m.call_command _
  distinct := Dict.map_fst_nodup same
  complete entry := by rw [same.mem_iff, Dict.mem_ofList]

end MapCommand

/-! ## What the server has afterwards -/

/-- What is stored under a key by words that are keys and values in turn. -/
def storedUnder (key : String) : List String → Option String
  | k :: value :: rest => (storedUnder key rest).or (if k = key then some value else none)
  | _ => none

theorem storedUnder_pairWords (key : String) (entries : List (String × String)) :
    storedUnder key (pairWords entries) = (Dict.ofList entries).get? key := by
  induction entries with
  | nil => rfl
  | cons entry rest ih =>
    rw [Dict.get?_ofList_cons, ← ih]
    rfl

end RedisClient
