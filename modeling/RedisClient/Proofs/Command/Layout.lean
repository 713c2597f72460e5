import RedisClient.Proofs.Command.Faults

/-!
# Layout of commands

Where the keys and the values of a command stand depends on its name only, so a server can tell from
the words alone whether a command has an empty key, or lacks keys or values (`WellFormed`). Calls
that are not refused are sent as well-formed commands (`Call.command_wellFormed`): the layout that
follows from the parameters of a method (`Layout.ofParams`) is the one that goes with the name.
-/

namespace RedisClient

/-- Where the keys and the values of a command stand after its name. -/
inductive Layout
  /-- A word that is not a key, and more. -/
  | word (rest : Layout)
  /-- A key, and more. -/
  | key (rest : Layout)
  /-- Words that are not keys, and may be missing. -/
  | any
  /-- One or more keys. -/
  | keys
  /-- One or more keys, and the time to wait for them. -/
  | awaitedKeys
  /-- One or more keys, after their number. -/
  | countedKeys
  /-- One or more values. -/
  | values
  /-- One or more pairs. -/
  | pairs
  /-- One or more pairs, each of a key and its value. -/
  | keyedPairs
deriving DecidableEq, Repr

namespace Layout

/-- The words are laid out so, no key is empty, and neither keys nor values are missing. -/
def Fits : Layout → List String → Prop
  | word rest, _ :: words => rest.Fits words
  | key rest, k :: words => k ≠ "" ∧ rest.Fits words
  | word _, [] | key _, [] => False
  | any, _ => True
  | keys, ks => ks ≠ [] ∧ "" ∉ ks
  | awaitedKeys, words => ∃ ks time, words = ks ++ [time] ∧ ks ≠ [] ∧ "" ∉ ks
  | countedKeys, words => ∃ ks, words = toString ks.length :: ks ∧ ks ≠ [] ∧ "" ∉ ks
  | values, vs => vs ≠ []
  | pairs, words => ∃ entries, words = pairWords entries ∧ entries ≠ []
  | keyedPairs, words =>
    ∃ entries, words = pairWords entries ∧ entries ≠ [] ∧ ∀ entry ∈ entries, entry.1 ≠ ""

def ofName : String → Layout
  | "AUTH" | "ECHO" | "KEYS" | "PING" | "QUIT" | "RANDOMKEY" => any
  | "BRPOPLPUSH" | "RENAME" | "RENAMENX" | "RPOPLPUSH" | "SMOVE" => key (key any)
  | "DEL" | "EXISTS" | "MGET" | "SDIFF" | "SINTER" | "SUNION" => keys
  | "SDIFFSTORE" | "SINTERSTORE" | "SUNIONSTORE" => key keys
  | "BITOP" => word (key keys)
  | "BLPOP" | "BRPOP" => awaitedKeys
  | "ZINTERSTORE" | "ZUNIONSTORE" => key countedKeys
  | "MSET" | "MSETNX" => keyedPairs
  | "HDEL" | "HMGET" | "LPUSH" | "LPUSHX" | "RPUSH" | "RPUSHX" | "SADD" | "SREM" | "ZREM" =>
    key values
  | "HMSET" | "ZADD" => key pairs
  | _ => key any

/-- The layout that follows from parameters whose words are sent in order. -/
def ofOrdered : List Param → Layout
  | .key :: ps => key (ofOrdered ps)
  | [.keys] => keys
  | [.countedKeys] => countedKeys
  | [.texts _] => values
  | [.keyPairs] => keyedPairs
  | [.fieldPairs] | [.memberScores] => pairs
  | _ => any

def awaited : Layout → Layout
  | word rest => word rest.awaited
  | key rest => key rest.awaited
  | keys => awaitedKeys
  | _ => any

def ofParams : List Param → Layout
  | .seconds :: ps => (ofOrdered ps).awaited
  | ps => ofOrdered ps

end Layout

/-- The words of a command that has no empty key, and lacks neither keys nor values. -/
def WellFormed : List String → Prop
  | [] => False
  | name :: words => (Layout.ofName name).Fits words

theorem scoreWords_eq (entries : List (String × Binary64)) :
    scoreWords entries = pairWords (entries.map fun entry => (scoreText entry.2, entry.1)) := by
  simp only [scoreWords, pairWords, List.flatMap_map]

theorem Args.refusal_single {p : Param} {args : Args [p]} (h : Args.refusal? [p] args = none) :
    p.refusal? args.1 = none := by
  simpa only [Args.refusal?, Option.or_none] using h

theorem Args.inOrder_single {p : Param} (args : Args [p]) :
    Args.inOrder [p] args = p.words args.1 := by
  simp only [Args.inOrder, List.append_nil]

namespace Layout

/-- Arguments that are not refused fit the layout of their parameters. -/
theorem ofOrdered_fits {ps : List Param} {args : Args ps} (h : Args.refusal? ps args = none) :
    (ofOrdered ps).Fits (Args.inOrder ps args) := by
  fun_induction ofOrdered ps with
  | case1 ps ih =>
    obtain ⟨k, args⟩ := args
    simp only [Args.refusal?, Option.or_eq_none_iff] at h
    exact ⟨Param.checkKey_none h.1, ih h.2⟩
  | case2 =>
    rw [Args.inOrder_single]
    exact Param.checkKeys_none (Args.refusal_single h)
  | case3 =>
    rw [Args.inOrder_single]
    exact ⟨_, rfl, Param.checkKeys_none (Args.refusal_single h)⟩
  | case4 noun =>
    rw [Args.inOrder_single]
    exact Param.checkSome_none (Args.refusal_single h)
  | case5 =>
    rw [Args.inOrder_single]
    have fine := Args.refusal_single h
    simp only [Param.refusal?, Option.or_eq_none_iff, List.findSome?_eq_none_iff] at fine
    refine ⟨_, rfl, Param.checkSome_none fine.1, fun entry mem => ?_⟩
    exact Param.checkKey_none (fine.2 _ (List.mem_map_of_mem mem))
  | case6 =>
    rw [Args.inOrder_single]
    exact ⟨_, rfl, Param.checkSome_none (Args.refusal_single h)⟩
  | case7 =>
    rw [Args.inOrder_single]
    refine ⟨_, scoreWords_eq _, fun empty => ?_⟩
    exact Param.checkSome_none (Args.refusal_single h) (List.map_eq_nil_iff.1 empty)
  | case8 => trivial

theorem awaited_fits {l : Layout} {words : List String} (time : String) (h : l.Fits words) :
    l.awaited.Fits (words ++ [time]) := by
  fun_induction Fits l words with
  | case1 rest w words ih => exact ih h
  | case2 rest k words ih => exact ⟨h.1, ih h.2⟩
  | case3 | case4 => exact h.elim
  | case6 ks => exact ⟨ks, time, rfl, h⟩
  | _ => trivial

theorem ofParams_fits {ps : List Param} {args : Args ps} (h : Args.refusal? ps args = none) :
    (ofParams ps).Fits (Args.words ps args) := by
  fun_cases ofParams ps with
  | case1 ps =>
    obtain ⟨n, args⟩ := args
    exact awaited_fits _ (ofOrdered_fits h)
  | case2 ps other =>
    rw [Args.words]
    · exact ofOrdered_fits h
    · exact fun ps _ _ eq _ => other ps eq

/-- The layout that follows from the words that open a command, and the parameters. -/
def ofSpec (spec : Spec) : Layout :=
  spec.opening.tail.foldr (fun _ rest => word rest) (ofParams spec.params)

theorem words_fit {l : Layout} {words : List String} (h : l.Fits words) (before : List String) :
    (before.foldr (fun _ rest => word rest) l).Fits (before ++ words) := by
  induction before with
  | nil => exact h
  | cons w before ih => exact ih

/-- The layouts that go with the names are those that follow from the parameters. `BITOP NOT` takes
one key where the other operations take several. -/
theorem ofName_eq_ofSpec (m : Method) (h : m ≠ .bitopNot) :
    ofName (m.spec.opening.headD "") = ofSpec m.spec := by
  cases m <;> first | rfl | exact absurd rfl h

end Layout

theorem Method.opening_ne_nil (m : Method) : m.spec.opening ≠ [] := by
  cases m <;> exact List.cons_ne_nil _ _

/-- A call that is not refused is sent as a well-formed command. -/
theorem Call.command_wellFormed {c : Call} (h : c.refusal? = none) : WellFormed c.command := by
  obtain ⟨m, args⟩ := c
  by_cases hm : m = .bitopNot
  · subst hm
    obtain ⟨dest, source, ⟨⟩⟩ := args
    have fine : dest ≠ "" ∧ source ≠ "" := by
      simp only [Call.refusal?, Args.refusal?, Option.or_eq_none_iff] at h
      exact ⟨Param.checkKey_none h.1, Param.checkKey_none h.2.1⟩
    refine ⟨fine.1, ?_⟩
    rw [Args.inOrder_single]
    exact ⟨List.cons_ne_nil _ _, fun mem => fine.2 (List.mem_singleton.1 mem).symm⟩
  · have name := Layout.ofName_eq_ofSpec m hm
    have fits := Layout.words_fit (Layout.ofParams_fits h) m.spec.opening.tail
    have opening := m.opening_ne_nil
    unfold Call.command
    cases eq : m.spec.opening with
    | nil => exact absurd eq opening
    | cons first rest =>
      simp only [eq, List.headD_cons, List.tail_cons] at name fits
      rw [Layout.ofSpec, eq, List.tail_cons] at name
      simp only [List.cons_append, WellFormed, name]
      exact fits

end RedisClient
