import RedisClient.Binary64.Format
import RedisClient.Dict
import RedisClient.Error
import RedisClient.Text.Blank

/-!
# Parameters of commands

Every parameter of a command method has a kind. The kind fixes the type of the argument, which
arguments are refused, and the words that the argument puts into the command.
-/

namespace RedisClient

/-- Where an element is inserted (`InsertPosition`). -/
inductive Side
  | before | after
deriving DecidableEq, Repr

def Side.word : Side → String
  | before => "BEFORE"
  | after => "AFTER"

/-- The kinds of parameter. -/
inductive Param
  /-- A single key. -/
  | key
  /-- One or more keys. -/
  | keys
  /-- One or more keys, sent after their number. -/
  | countedKeys
  /-- Any text. -/
  | text
  /-- One or more texts, called `noun` when they are missing. -/
  | texts (noun : String)
  /-- A signed integer. -/
  | int
  /-- An unsigned integer. -/
  | nat
  /-- How long a command may block, in seconds: given first and sent last. -/
  | seconds
  /-- A score or a bound of scores. -/
  | score
  /-- A number to add. -/
  | increment
  | bit
  | side
  /-- A password that is not blank. -/
  | password
  /-- One or more keys, each with a value. -/
  | keyPairs
  /-- One or more fields, each with a value. -/
  | fieldPairs
  /-- One or more members, each with a score that is sent before it. -/
  | memberScores
deriving DecidableEq, Repr

/-- The text of a score (`score_bound`): infinities have a sign, others are written in full. -/
def scoreText (x : Binary64) : String :=
  if x.isInfinite && !x.negative then "+inf" else Binary64.plain.write x

/-- The words of pairs, each key before its value (`pairs_command`). -/
def pairWords (entries : List (String × String)) : List String :=
  entries.flatMap fun (key, value) => [key, value]

/-- The words of scored members, each score before its member. -/
def scoreWords (entries : List (String × Binary64)) : List String :=
  entries.flatMap fun (member, score) => [scoreText score, member]

namespace Param

@[reducible] def Value : Param → Type
  | key | text | password => String
  | keys | countedKeys | texts _ => List String
  | int => Int64
  | nat | seconds => UInt64
  | score | increment => Binary64
  | bit => Bool
  | side => Side
  | keyPairs | fieldPairs => Dict String
  | memberScores => Dict Binary64

/-- A key has to have a name (`check_key`). -/
def checkKey (k : String) : Option Error :=
  if k.isEmpty then some (.argument .key "key must not be empty") else none

/-- There has to be a key, and all have to have a name (`check_keys`). -/
def checkKeys (ks : List String) : Option Error :=
  if ks.isEmpty then some (.argument .keys "at least one key is required")
  else if ks.any (·.isEmpty) then some (.argument .keys "keys must not be empty")
  else none

/-- There has to be something (`check_args`). -/
def checkSome (count : Nat) (noun : String) : Option Error :=
  if count = 0 then some (.argument .arguments ("at least one " ++ noun ++ " is required"))
  else none

def refusal? : (p : Param) → p.Value → Option Error
  | key, k => checkKey k
  | keys, ks | countedKeys, ks => checkKeys ks
  | texts noun, ts => checkSome ts.length noun
  | password, p =>
    if Text.isBlankText p then some (.argument .password "password must not be empty") else none
  | keyPairs, d => (checkSome d.size "key-value pair").or (d.keys.findSome? checkKey)
  | fieldPairs, d => checkSome d.size "field-value pair"
  | memberScores, d => checkSome d.size "member"
  | text, _ | int, _ | nat, _ | seconds, _ | score, _ | increment, _ | bit, _ | side, _ => none

def words : (p : Param) → p.Value → List String
  | key, t | text, t | password, t => [t]
  | keys, ts | texts _, ts => ts
  | countedKeys, ks => toString ks.length :: ks
  | int, n => [toString n.toInt]
  | nat, n | seconds, n => [toString n.toNat]
  | score, x => [scoreText x]
  | increment, x => [Binary64.increment.write x]
  | bit, b => [if b then "1" else "0"]
  | side, s => [s.word]
  | keyPairs, d | fieldPairs, d => pairWords d.entries
  | memberScores, d => scoreWords d.entries

end Param

@[reducible] def Args : List Param → Type
  | [] => Unit
  | p :: ps => p.Value × Args ps

namespace Args

/-- Why arguments are refused: the reason for the first one that is. -/
def refusal? : (ps : List Param) → Args ps → Option Error
  | [], _ => none
  | p :: ps, (a, args) => (p.refusal? a).or (refusal? ps args)

def inOrder : (ps : List Param) → Args ps → List String
  | [], _ => []
  | p :: ps, (a, args) => p.words a ++ inOrder ps args

/-- The words of arguments as they are sent: the time to block goes last. -/
def words : (ps : List Param) → Args ps → List String
  | .seconds :: ps, (n, args) => inOrder ps args ++ Param.words .seconds n
  | ps, args => inOrder ps args

/-- How long a command may block, if its arguments say so. -/
def blockSeconds? : (ps : List Param) → Args ps → Option UInt64
  | .seconds :: _, (n, _) => some n
  | _, _ => none

end Args

end RedisClient
