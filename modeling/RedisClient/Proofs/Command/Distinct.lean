import Mathlib.Data.List.Pairwise
import RedisClient.Proofs.Command.Layout
import RedisClient.Proofs.Dict.Collecting
import RedisClient.Proofs.Text.Digits

/-!
# Telling commands apart

The entries of a dictionary have no order of their own, so a command may be sent with them in any
order: `Call.Sends` lists the words that a call may be sent as, and `Call.command` is one of them
(`Call.sends_command`). Whatever the order, the opening words and the number of words tell the method
(`Call.Sends.method_eq`). Once the method is known, each argument but the last is a single word and
the last one takes the rest, so that the words tell the arguments as well (`Call.Sends.unique`),
provided that none of them is a number of floating point.
-/

namespace RedisClient

theorem pairWords_inj {entries entries' : List (String × String)}
    (same : pairWords entries = pairWords entries') : entries = entries' := by
  induction entries generalizing entries' with
  | nil =>
    cases entries' with
    | nil => rfl
    | cons entry' rest' => cases same
  | cons entry rest ih =>
    cases entries' with
    | nil => cases same
    | cons entry' rest' =>
      obtain ⟨key, others⟩ := List.cons.inj same
      obtain ⟨value, others⟩ := List.cons.inj others
      rw [ih others, Prod.ext key value]

namespace Param

variable {p : Param} {a b : p.Value} {words : List String}

/-- Words that an argument may put into the command: entries of a dictionary stand in any order. -/
def Sends : (p : Param) → p.Value → List String → Prop
  | keyPairs, d, words | fieldPairs, d, words =>
    ∃ entries, entries.Perm d.entries ∧ words = pairWords entries
  | memberScores, d, words => ∃ entries, entries.Perm d.entries ∧ words = scoreWords entries
  | p, a, words => words = p.words a

/-- The argument is sent as one word. -/
def single : Param → Bool
  | keys | countedKeys | texts _ | keyPairs | fieldPairs | memberScores => false
  | _ => true

/-- The argument holds no number of floating point. -/
def exact : Param → Bool
  | score | increment | memberScores => false
  | _ => true

theorem sends_words (p : Param) (a : p.Value) : p.Sends a (p.words a) := by
  cases p with
  | keyPairs | fieldPairs | memberScores => exact ⟨_, .refl _, rfl⟩
  | _ => rfl

theorem Sends.length (h : p.Sends a words) (single : p.single = true) : words.length = 1 := by
  cases p with
  | keys | countedKeys | texts | keyPairs | fieldPairs | memberScores => cases single
  | _ => exact congrArg List.length h

/-- The pairs of a dictionary tell the dictionary. -/
theorem pairs_unique {d d' : Dict String}
    (h : ∃ entries, entries.Perm d.entries ∧ words = pairWords entries)
    (h' : ∃ entries, entries.Perm d'.entries ∧ words = pairWords entries) : d = d' := by
  obtain ⟨entries, perm, rfl⟩ := h
  obtain ⟨entries', perm', same⟩ := h'
  rw [← pairWords_inj same] at perm'
  exact Dict.eq_of_perm (perm.symm.trans perm')

/-- The words of an argument tell the argument. -/
theorem Sends.unique (h : p.Sends a words) (h' : p.Sends b words) (exact : p.exact = true) :
    a = b := by
  cases p with
  | key | text | password => exact List.singleton_inj.1 (h.symm.trans h')
  | keys | texts => exact h.symm.trans h'
  | countedKeys => exact (List.cons.inj (h.symm.trans h')).2
  | int =>
    have same : toString a.toInt = toString b.toInt := List.singleton_inj.1 (h.symm.trans h')
    exact Int64.toInt_inj.1 (Text.toString_integer_inj same)
  | nat | seconds =>
    have same : toString a.toNat = toString b.toNat := List.singleton_inj.1 (h.symm.trans h')
    exact UInt64.toNat_inj.1 (Text.toString_natural_inj same)
  | bit =>
    have same := List.singleton_inj.1 (h.symm.trans h')
    revert same
    cases a <;> cases b <;> decide
  | side =>
    have same := List.singleton_inj.1 (h.symm.trans h')
    revert same
    cases a <;> cases b <;> decide
  | keyPairs | fieldPairs => exact pairs_unique h h'
  | score | increment | memberScores => cases exact

end Param

namespace Args

variable {ps : List Param} {words : List String}

/-- Words that arguments may put into the command, in order. -/
def SendsInOrder : (ps : List Param) → Args ps → List String → Prop
  | [], _, words => words = []
  | p :: ps, (a, args), words =>
    ∃ own rest, words = own ++ rest ∧ p.Sends a own ∧ SendsInOrder ps args rest

/-- Words that arguments may put into the command: the time to block goes last. -/
def Sends : (ps : List Param) → Args ps → List String → Prop
  | .seconds :: ps, (n, args), words =>
    ∃ front, words = front ++ Param.words .seconds n ∧ SendsInOrder ps args front
  | ps, args, words => SendsInOrder ps args words

theorem sendsInOrder_inOrder : ∀ (ps : List Param) (args : Args ps),
    SendsInOrder ps args (inOrder ps args)
  | [], _ => rfl
  | p :: ps, (a, args) => ⟨_, _, rfl, p.sends_words a, sendsInOrder_inOrder ps args⟩

theorem SendsInOrder.length : ∀ {ps : List Param} {args : Args ps} {words : List String},
    SendsInOrder ps args words → (∀ p ∈ ps, p.single = true) → words.length = ps.length
  | [], _, _, h, _ => congrArg List.length h
  | p :: ps, (a, args), _, ⟨own, rest, eq, first, others⟩, single => by
    have one := first.length (single p List.mem_cons_self)
    have more := others.length fun q mem => single q (List.mem_cons_of_mem p mem)
    rw [eq, List.length_append, one, more, List.length_cons, Nat.add_comm]

/-- Words tell the arguments in order, if only the last one may be sent as several words. -/
theorem SendsInOrder.unique : ∀ {ps : List Param} {a b : Args ps} {words : List String},
    SendsInOrder ps a words → SendsInOrder ps b words → (∀ p ∈ ps, p.exact = true) →
      (∀ p ∈ ps.dropLast, p.single = true) → a = b
  | [], (), (), _, _, _, _, _ => rfl
  | [p], (a, ()), (b, ()), _, ⟨own, _, eq, first, rfl⟩, ⟨own', _, eq', first', rfl⟩, exact, _ => by
    rw [List.append_nil] at eq eq'
    rw [← eq] at first
    rw [← eq'] at first'
    rw [first.unique first' (exact p List.mem_cons_self)]
  | p :: q :: ps, (a, args), (b, args'), _, ⟨own, rest, eq, first, others⟩,
      ⟨own', rest', eq', first', others'⟩, exact, single => by
    have one := single p List.mem_cons_self
    obtain ⟨rfl, rfl⟩ := List.append_inj (eq.symm.trans eq')
      ((first.length one).trans (first'.length one).symm)
    rw [first.unique first' (exact p List.mem_cons_self),
      others.unique others' (fun r mem => exact r (List.mem_cons_of_mem p mem))
        fun r mem => single r (List.mem_cons_of_mem p mem)]

theorem sends_words : ∀ (ps : List Param) (args : Args ps), Sends ps args (Args.words ps args)
  | [], _ => rfl
  | p :: ps, (a, args) => by
    cases p with
    | seconds => exact ⟨_, rfl, sendsInOrder_inOrder ps args⟩
    | _ => exact sendsInOrder_inOrder (_ :: ps) (a, args)

theorem Sends.length {args : Args ps} (h : Sends ps args words)
    (single : ∀ p ∈ ps, p.single = true) : words.length = ps.length := by
  cases ps with
  | nil => exact (show SendsInOrder [] args words from h).length single
  | cons p ps =>
    cases p with
    | seconds =>
      obtain ⟨front, rfl, inOrder⟩ := h
      have others := inOrder.length fun q mem => single q (List.mem_cons_of_mem _ mem)
      rw [List.length_append, others]
      rfl
    | _ => exact (show SendsInOrder _ args words from h).length single

/-- Words tell the arguments, if only the last one may be sent as several words. -/
theorem Sends.unique {a b : Args ps} (h : Sends ps a words) (h' : Sends ps b words)
    (exact : ∀ p ∈ ps, p.exact = true) (single : ∀ p ∈ ps.dropLast, p.single = true) : a = b := by
  cases ps with
  | nil => rfl
  | cons p ps =>
    cases p with
    | seconds =>
      obtain ⟨n, args⟩ := a
      obtain ⟨n', args'⟩ := b
      obtain ⟨front, eq, inOrder⟩ := h
      obtain ⟨front', eq', inOrder'⟩ := h'
      obtain ⟨rfl, time⟩ := List.append_inj' (eq.symm.trans eq') rfl
      have seconds : n = n' := (Param.sends_words .seconds n).unique time rfl
      have others : args = args' := by
        refine inOrder.unique inOrder' (fun q mem => exact q (List.mem_cons_of_mem _ mem)) ?_
        intro q mem
        cases ps with
        | nil => cases mem
        | cons r ps => exact single q (List.mem_cons_of_mem _ mem)
      rw [seconds, others]
    | _ => exact SendsInOrder.unique h h' exact single

end Args

namespace Method

def Exact (m : Method) : Prop := ∀ p ∈ m.spec.params, p.exact = true

instance (m : Method) : Decidable m.Exact := List.decidableBAll _ _

/-- Only the last argument of a method may be sent as several words. -/
theorem front_single (m : Method) : ∀ p ∈ m.spec.params.dropLast, p.single = true := by
  cases m <;> decide

/-- The two methods are told apart by the first words of their commands, by the second words, or by
how many words there are. -/
def ToldApart (m m' : Method) : Prop :=
  m.spec.opening.headD "" = m'.spec.opening.headD "" →
    m.spec.opening.length = m'.spec.opening.length ∧
      (m.spec.opening = m'.spec.opening →
        ((∀ p ∈ m.spec.params, p.single = true) ∧ ∀ p ∈ m'.spec.params, p.single = true) ∧
          m.spec.params.length ≠ m'.spec.params.length)

instance : DecidableRel ToldApart := fun _ _ => inferInstanceAs (Decidable (_ → _))

instance : Std.Symm ToldApart where
  symm m m' apart first := by
    obtain ⟨length, different⟩ := apart first.symm
    refine ⟨length.symm, fun opening => ?_⟩
    obtain ⟨⟨single, single'⟩, count⟩ := different opening.symm
    exact ⟨⟨single', single⟩, count.symm⟩

theorem toldApart_of_ne {m m' : Method} (different : m ≠ m') : ToldApart m m' := by
  have table : all.Pairwise ToldApart := by decide +kernel
  exact table.forall m.mem_all m'.mem_all different

end Method

namespace Call

variable {c c' : Call} {words : List String}

def Sends (c : Call) (words : List String) : Prop :=
  ∃ args, words = c.method.spec.opening ++ args ∧ Args.Sends c.method.spec.params c.args args

theorem sends_command (c : Call) : c.Sends c.command :=
  ⟨_, rfl, Args.sends_words c.method.spec.params c.args⟩

/-- The words of a command tell the method. -/
theorem Sends.method_eq (h : c.Sends words) (h' : c'.Sends words) : c.method = c'.method := by
  obtain ⟨args, eq, sent⟩ := h
  obtain ⟨args', eq', sent'⟩ := h'
  rw [eq] at eq'
  by_contra different
  have first : c.method.spec.opening.headD "" = c'.method.spec.opening.headD "" := by
    have first := congrArg (List.headD · "") eq'
    obtain ⟨w, ws, opening⟩ := List.exists_cons_of_ne_nil c.method.opening_ne_nil
    obtain ⟨w', ws', opening'⟩ := List.exists_cons_of_ne_nil c'.method.opening_ne_nil
    rwa [opening, opening'] at first ⊢
  obtain ⟨length, apart⟩ := Method.toldApart_of_ne different first
  obtain ⟨opening, rfl⟩ := List.append_inj eq' length
  obtain ⟨⟨single, single'⟩, count⟩ := apart opening
  exact count ((sent.length single).symm.trans (sent'.length single'))

/-- The words of a command tell the call, unless it takes a number of floating point. -/
theorem Sends.unique (h : c.Sends words) (h' : c'.Sends words) (exact : c.method.Exact) :
    c = c' := by
  have same := h.method_eq h'
  obtain ⟨m, args⟩ := c
  obtain ⟨m', args'⟩ := c'
  obtain rfl : m = m' := same
  obtain ⟨rest, eq, sent⟩ := h
  obtain ⟨rest', eq', sent'⟩ := h'
  obtain rfl : rest = rest' := List.append_cancel_left (eq.symm.trans eq')
  exact congrArg (Call.mk m) (sent.unique sent' exact m.front_single)

end Call

end RedisClient
