import RedisClient.Proofs.Binary64.Writing
import RedisClient.Proofs.Command.Distinct

/-!
# Commands that take numbers

A number of floating point stands in a command as a text. Scores and bounds are always written in full,
increments with an exponent where that is shorter; `NumberCommand.Reads` says what commands a server
reads from words, if it rounds each numeral to the nearest double. It reads a command from the words
that this is sent as, and no other command (`NumberCommand.numbers_exact`).
-/

namespace RedisClient

open Binary64 (ReadAs)

variable {x y : Binary64} {words : List String}

theorem scoreText_readAs (number : x.isNaN = false) : ReadAs (scoreText x).toList x := by
  rw [scoreText]
  split
  · rename_i infinite
    simp only [Bool.and_eq_true, Bool.not_eq_true'] at infinite
    have magnitude : x.magnitude = Binary64.infinite := eq_of_beq infinite.1
    have read : ReadAs "+inf".toList (Binary64.infinity false) := .infinite .plus
    have same := x.ofMagnitude_negative_magnitude
    rw [infinite.2, magnitude] at same
    rwa [Binary64.infinity, same] at read
  · exact Binary64.write_readAs Binary64.plain number

/-- The commands with two bounds of scores. -/
inductive BoundsCommand
  | zcount | zrangebyscore | zremrangebyscore | zrevrangebyscore

/-- The commands with numbers of floating point, and their arguments. -/
inductive NumberCommand
  | incrbyfloat (key : String) (increment : Binary64)
  | hincrbyfloat (key field : String) (increment : Binary64)
  | zincrby (key : String) (increment : Binary64) (member : String)
  | zadd (key : String) (members : Dict Binary64)
  /-- The bounds are in the order of the arguments: the reversed range has the greater one first. -/
  | bounds (command : BoundsCommand) (key : String) (first second : Binary64)

def BoundsCommand.name : BoundsCommand → String
  | zcount => "ZCOUNT"
  | zrangebyscore => "ZRANGEBYSCORE"
  | zremrangebyscore => "ZREMRANGEBYSCORE"
  | zrevrangebyscore => "ZREVRANGEBYSCORE"

namespace NumberCommand

variable {c c' : NumberCommand}

def call : NumberCommand → Call
  | incrbyfloat key x => ⟨.incrbyfloat, key, x, ()⟩
  | hincrbyfloat key field x => ⟨.hincrbyfloat, key, field, x, ()⟩
  | zincrby key x member => ⟨.zincrby, key, x, member, ()⟩
  | zadd key members => ⟨.zadd, key, members, ()⟩
  | bounds .zcount key min max => ⟨.zcount, key, min, max, ()⟩
  | bounds .zrangebyscore key min max => ⟨.zrangebyscore, key, min, max, ()⟩
  | bounds .zremrangebyscore key min max => ⟨.zremrangebyscore, key, min, max, ()⟩
  | bounds .zrevrangebyscore key max min => ⟨.zrevrangebyscore, key, max, min, ()⟩

def numbers : NumberCommand → List Binary64
  | incrbyfloat _ x | hincrbyfloat _ _ x | zincrby _ x _ => [x]
  | zadd _ members => members.entries.map Prod.snd
  | bounds _ _ x y => [x, y]

/-- A pair of a text and a member is read as the member with its score. -/
def ReadScore (pair : String × String) (entry : String × Binary64) : Prop :=
  pair.2 = entry.1 ∧ ReadAs pair.1.toList entry.2

/-- A server reads the words as the command: where a number belongs stands a text that is read as it.
The members of a set come in any order, each after its score. -/
inductive Reads : List String → NumberCommand → Prop
  | incrbyfloat {key text : String} {x : Binary64} (number : ReadAs text.toList x) :
      Reads ["INCRBYFLOAT", key, text] (.incrbyfloat key x)
  | hincrbyfloat {key field text : String} {x : Binary64} (number : ReadAs text.toList x) :
      Reads ["HINCRBYFLOAT", key, field, text] (.hincrbyfloat key field x)
  | zincrby {key text member : String} {x : Binary64} (number : ReadAs text.toList x) :
      Reads ["ZINCRBY", key, text, member] (.zincrby key x member)
  | zadd {key : String} {members : Dict Binary64} {pairs : List (String × String)}
      {entries : List (String × Binary64)} (perm : entries.Perm members.entries)
      (scores : List.Forall₂ ReadScore pairs entries) :
      Reads ("ZADD" :: key :: pairWords pairs) (.zadd key members)
  | bounds {b : BoundsCommand} {key text text' : String} {x y : Binary64}
      (first : ReadAs text.toList x) (second : ReadAs text'.toList y) :
      Reads [b.name, key, text, text'] (.bounds b key x y)

theorem ReadScore.unique : Relator.RightUnique ReadScore := fun _ _ _ first second =>
  Prod.ext (first.1.symm.trans second.1) (first.2.unique second.2)

/-- The entries of a dictionary are read from their words. -/
theorem readScores {entries : List (String × Binary64)}
    (numbers : ∀ entry ∈ entries, entry.2.isNaN = false) :
    List.Forall₂ ReadScore (entries.map fun entry => (scoreText entry.2, entry.1)) entries := by
  rw [List.forall₂_map_left_iff, List.forall₂_same]
  exact fun entry mem => ⟨rfl, scoreText_readAs (numbers entry mem)⟩

/-- Whatever words a command is sent as, it is read from them. -/
theorem reads_sends (sent : c.call.Sends words) (numbers : ∀ x ∈ c.numbers, x.isNaN = false) :
    Reads words c := by
  obtain ⟨args, rfl, sent⟩ := sent
  cases c with
  | incrbyfloat key x =>
    obtain ⟨_, _, rfl, rfl, _, _, rfl, rfl, rfl⟩ := sent
    exact .incrbyfloat (Binary64.write_readAs _ (numbers x List.mem_cons_self))
  | hincrbyfloat key field x =>
    obtain ⟨_, _, rfl, rfl, _, _, rfl, rfl, _, _, rfl, rfl, rfl⟩ := sent
    exact .hincrbyfloat (Binary64.write_readAs _ (numbers x List.mem_cons_self))
  | zincrby key x member =>
    obtain ⟨_, _, rfl, rfl, _, _, rfl, rfl, _, _, rfl, rfl, rfl⟩ := sent
    exact .zincrby (Binary64.write_readAs _ (numbers x List.mem_cons_self))
  | zadd key members =>
    obtain ⟨_, _, rfl, rfl, _, _, rfl, ⟨entries, perm, rfl⟩, rfl⟩ := sent
    have scores : List.Forall₂ ReadScore _ entries := readScores fun entry mem =>
      numbers entry.2 (List.mem_map_of_mem (perm.mem_iff.1 mem))
    have read : Reads ("ZADD" :: key :: pairWords _) (.zadd key members) := .zadd perm scores
    rw [← scoreWords_eq, ← List.append_nil (scoreWords entries)] at read
    exact read
  | bounds b key x y =>
    have first := scoreText_readAs (numbers x List.mem_cons_self)
    have second := scoreText_readAs (numbers y (List.mem_cons_of_mem x List.mem_cons_self))
    have read : Reads [b.name, key, scoreText x, scoreText y] (.bounds b key x y) :=
      .bounds first second
    cases b <;>
    · obtain ⟨_, _, rfl, rfl, _, _, rfl, rfl, _, _, rfl, rfl, rfl⟩ := sent
      exact read

def methods : List Method :=
  [.incrbyfloat, .hincrbyfloat, .zincrby, .zadd, .zcount, .zrangebyscore, .zremrangebyscore,
    .zrevrangebyscore]

theorem mem_methods (c : NumberCommand) : c.call.method ∈ methods := by
  cases c with
  | bounds b => cases b <;> simp [methods, call]
  | _ => simp [methods, call]

theorem Reads.head? (read : Reads words c) : words.head? = some c.call.commandName := by
  cases read with
  | @bounds b => cases b <;> rfl
  | _ => rfl

/-- The first word tells the method. -/
theorem Reads.method_eq (read : Reads words c) (read' : Reads words c') :
    c.call.method = c'.call.method := by
  have different : ∀ m ∈ methods, ∀ m' ∈ methods,
      m.spec.opening.headD "" = m'.spec.opening.headD "" → m = m' := by decide
  have name : c.call.commandName = c'.call.commandName :=
    Option.some.inj (read.head?.symm.trans read'.head?)
  exact different _ c.mem_methods _ c'.mem_methods name

/-- What is read from words is one command. The first word leaves only commands of one kind, and the
others tell its arguments. -/
theorem Reads.unique (read : Reads words c) (read' : Reads words c') : c = c' := by
  have method := read.method_eq read'
  generalize same : words = words' at read'
  cases read with
  | incrbyfloat number =>
    cases read' with
    | incrbyfloat number' =>
      cases same
      rw [number.unique number']
    | @bounds b => cases b <;> cases method
    | _ => cases method
  | hincrbyfloat number =>
    cases read' with
    | hincrbyfloat number' =>
      cases same
      rw [number.unique number']
    | @bounds b => cases b <;> cases method
    | _ => cases method
  | zincrby number =>
    cases read' with
    | zincrby number' =>
      cases same
      rw [number.unique number']
    | @bounds b => cases b <;> cases method
    | _ => cases method
  | zadd perm scores =>
    cases read' with
    | zadd perm' scores' =>
      obtain ⟨-, rest⟩ := List.cons.inj same
      obtain ⟨rfl, pairs⟩ := List.cons.inj rest
      obtain rfl := pairWords_inj pairs
      obtain rfl := List.right_unique_forall₂' ReadScore.unique scores scores'
      rw [Dict.eq_of_perm (perm.symm.trans perm')]
    | @bounds b => cases b <;> cases method
    | _ => cases method
  | @bounds b _ _ _ _ _ first second =>
    cases read' with
    | @bounds b' _ _ _ _ _ first' second' =>
      obtain ⟨-, rest⟩ := List.cons.inj same
      cases rest
      obtain rfl : b = b' := by cases b <;> cases b' <;> first | rfl | cases method
      rw [first.unique first', second.unique second']
    | _ => cases b <;> cases method

/-- Both texts of a number are read as this number, the sign of a zero included, and as no other one, so
no two numbers share a text. The words that a command may be sent as are read as this command, and as no
other one. -/
theorem numbers_exact :
    (∀ x : Binary64, x.isNaN = false → ∀ y,
      (ReadAs (scoreText x).toList y ↔ y = x) ∧
        (ReadAs (Binary64.increment.write x).toList y ↔ y = x)) ∧
    (∀ x y : Binary64, x.isNaN = false → y.isNaN = false →
      scoreText x = scoreText y ∨ scoreText x = Binary64.increment.write y ∨
        Binary64.increment.write x = Binary64.increment.write y → x = y) ∧
    ∀ (c : NumberCommand) (words : List String), c.call.Sends words →
      (∀ x ∈ c.numbers, x.isNaN = false) → ∀ c', Reads words c' ↔ c' = c := by
  refine ⟨fun x number y => ?_, fun x y first second shared => ?_, fun c words sent numbers c' => ?_⟩
  · exact ⟨(scoreText_readAs number).eq_iff, (Binary64.write_readAs _ number).eq_iff⟩
  · have score (z : Binary64) (number : z.isNaN = false) := scoreText_readAs number
    have increment (z : Binary64) (number : z.isNaN = false) :=
      Binary64.write_readAs Binary64.increment number
    rcases shared with same | same | same
    · exact (score x first).unique (same ▸ score y second)
    · exact (score x first).unique (same ▸ increment y second)
    · exact (increment x first).unique (same ▸ increment y second)
  · have read := reads_sends sent numbers
    exact ⟨fun other => other.unique read, fun same => same ▸ read⟩

/-- The greatest number below zero as an increment, a score whose shortest decimal is no double, and the
zeros of both signs as bounds. -/
theorem numbers_exact_extremes :
    (∀ y, ReadAs "-5e-324".toList y ↔ y = ⟨0x8000000000000001⟩) ∧
    (∀ y, ReadAs "100000000000000000000000".toList y ↔ y = ⟨0x44B52D02C7E14AF6⟩) ∧
    scoreText ⟨0x8000000000000000⟩ ≠ scoreText ⟨0⟩ ∧
    ∀ c, Reads ["ZCOUNT", "board", "-0", "0"] c ↔
      c = .bounds .zcount "board" ⟨0x8000000000000000⟩ ⟨0⟩ := by
  obtain ⟨texts, apart, words⟩ := numbers_exact
  have least : Binary64.increment.write ⟨0x8000000000000001⟩ = "-5e-324" := by decide +kernel
  have between : scoreText ⟨0x44B52D02C7E14AF6⟩ = "100000000000000000000000" := by decide +kernel
  have zeros : (bounds .zcount "board" ⟨0x8000000000000000⟩ ⟨0⟩).call.command =
      ["ZCOUNT", "board", "-0", "0"] := by decide +kernel
  refine ⟨fun y => ?_, fun y => ?_, fun same => ?_, ?_⟩
  · rw [← least]
    exact (texts _ (by decide) y).2
  · rw [← between]
    exact (texts _ (by decide) y).1
  · exact absurd (apart _ _ (by decide) (by decide) (.inl same)) (by decide)
  · rw [← zeros]
    exact words _ _ (Call.sends_command _) (by decide)

end NumberCommand

end RedisClient
