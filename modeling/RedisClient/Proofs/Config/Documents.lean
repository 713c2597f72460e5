import RedisClient.Config.Json
import RedisClient.Proofs.Json.Objects

/-!
# Documents with configurations

A configuration is read from any object whose members are entries of a configuration, in any order,
among any other members (`Config.ofJson_object`): the entries are put into the configuration of the
host list, one after the other, and a member that comes twice or a host list that does not come is a
failure of configuration. What is written for a configuration, for pool limits or for an address is
read as just this value (`toJson_roundtrip`).
-/

namespace RedisClient

open Json

/-! ## Pool limits -/

namespace PoolConfig

/-- A member of an object with pool limits. -/
inductive Entry
  | maxSize (n : UInt32)
  | minIdle (n : UInt32)
  | maxWaitMillis (n : UInt64)
  | other (key : String) (unknown : key ∉ schema.names)

namespace Entry

def key : Entry → String
  | maxSize _ => "maxSize"
  | minIdle _ => "minIdle"
  | maxWaitMillis _ => "maxWaitMillis"
  | other key _ => key

def Written : Entry → List Char → Prop
  | maxSize n, v => IntegerText n.toNat v
  | minIdle n, v => IntegerText n.toNat v
  | maxWaitMillis n, v => IntegerText n.toNat v
  | other .., v => Valid .value v

def put : Entry → PoolConfig → PoolConfig
  | maxSize n, p => { p with maxSize := n }
  | minIdle n, p => { p with minIdle := n }
  | maxWaitMillis n, p => { p with maxWaitMillis := n }
  | other .., p => p

end Entry

/-- The entries as the schema understands them. -/
def form : Form schema Entry where
  key := Entry.key
  value := Entry.Written
  effect e := .ok e.put
  understood e := by
    cases e with
    | maxSize n => exact .field rfl fun written => Field.of_reads (uint32_reads written)
    | minIdle n => exact .field rfl fun written => Field.of_reads (uint32_reads written)
    | maxWaitMillis n => exact .field rfl fun written => Field.of_reads (uint64_reads written)
    | other key unknown => exact .unknown (Schema.find?_eq_none.2 unknown) rfl id

def ofEntries (es : List Entry) : PoolConfig := es.foldl (fun p e => e.put p) {}

end PoolConfig

/-! ## Configurations -/

namespace Config

/-- A member of an object with a configuration. -/
inductive Entry
  | host (t : String)
  | password (t : Option String)
  | database (n : Int64)
  | connectionTimeout (n : Int64)
  | clientName (t : String)
  | isClusterConnection (b : Bool)
  | connectionPooling (b : Bool)
  | ssl (b : Bool)
  | startTls (b : Bool)
  | verifyPeer (b : Bool)
  | pool (es : List PoolConfig.Entry)
  | other (key : String) (unknown : key ∉ schema.names)

namespace Entry

def key : Entry → String
  | host _ => "host"
  | password _ => "password"
  | database _ => "database"
  | connectionTimeout _ => "connectionTimeout"
  | clientName _ => "clientName"
  | isClusterConnection _ => "isClusterConnection"
  | connectionPooling _ => "connectionPooling"
  | ssl _ => "ssl"
  | startTls _ => "startTls"
  | verifyPeer _ => "verifyPeer"
  | pool _ => "pool"
  | other key _ => key

def Written : Entry → List Char → Prop
  | host t, v => TextText t v
  | password t, v => TextOrNull t v
  | database n, v => IntegerText n.toInt v
  | connectionTimeout n, v => IntegerText n.toInt v
  | clientName t, v => TextText t v
  | isClusterConnection b, v => FlagText b v
  | connectionPooling b, v => FlagText b v
  | ssl b, v => FlagText b v
  | startTls b, v => FlagText b v
  | verifyPeer b, v => FlagText b v
  | pool es, v => ObjectText PoolConfig.Entry.key PoolConfig.Entry.Written es v
  | other .., v => Valid .value v

def put : Entry → Config → Config
  | host t, c => { c with host := t }
  | password t, c => { c with password := t }
  | database n, c => { c with database := n }
  | connectionTimeout n, c => { c with connectionTimeout := n }
  | clientName t, c => { c with clientName := t }
  | isClusterConnection b, c => { c with isClusterConnection := b }
  | connectionPooling b, c => { c with connectionPooling := b }
  | ssl b, c => { c with ssl := b }
  | startTls b, c => { c with startTls := b }
  | verifyPeer b, c => { c with verifyPeer := b }
  | pool es, c => { c with pool := PoolConfig.ofEntries es }
  | other .., c => c

/-- What an entry does: pool limits may be refused themselves. -/
def effect : Entry → Except Fault (Config → Config)
  | pool es =>
    (PoolConfig.form.settle [] PoolConfig.schema.start es).map fun pool c => { c with pool }
  | e => .ok e.put

end Entry

/-- The entries as the schema understands them. -/
def form : Form schema Entry where
  key := Entry.key
  value := Entry.Written
  effect := Entry.effect
  understood e := by
    cases e with
    | host t => exact .field rfl fun written => Field.of_reads (text_reads written)
    | password t => exact .field rfl fun written => Field.of_reads (textOrNull_reads written)
    | database n => exact .field rfl fun written => Field.of_reads (int64_reads written)
    | connectionTimeout n => exact .field rfl fun written => Field.of_reads (int64_reads written)
    | clientName t => exact .field rfl fun written => Field.of_reads (text_reads written)
    | isClusterConnection b => exact .field rfl fun written => Field.of_reads (flag_reads written)
    | connectionPooling b => exact .field rfl fun written => Field.of_reads (flag_reads written)
    | ssl b => exact .field rfl fun written => Field.of_reads (flag_reads written)
    | startTls b => exact .field rfl fun written => Field.of_reads (flag_reads written)
    | verifyPeer b => exact .field rfl fun written => Field.of_reads (flag_reads written)
    | pool es =>
      exact .field rfl fun written => Field.of_reads (PoolConfig.form.object_reads written)
    | other key unknown => exact .unknown (Schema.find?_eq_none.2 unknown) rfl id

/-- No key of a field comes twice, neither in the object itself nor among its pool limits. -/
def Distinct (es : List Entry) : Prop :=
  schema.Distinct (es.map Entry.key) ∧
    ∀ ps, .pool ps ∈ es → PoolConfig.schema.Distinct (ps.map PoolConfig.Entry.key)

variable {es : List Entry} {t : String}

/-- The host list is all that has to come. -/
theorem complete_iff : schema.Complete (es.map Entry.key) ↔ ∃ t, Entry.host t ∈ es := by
  have required : ∀ f ∈ schema.fields, f.required = true → f.name = "host" := by decide
  constructor
  · intro complete
    obtain ⟨e, mem, same⟩ := List.mem_map.1 (complete _ (List.mem_cons_self ..) rfl)
    cases e with
    | host t => exact ⟨t, mem⟩
    | other key unknown =>
      obtain rfl : key = "host" := same
      exact absurd (by decide) unknown
    | _ => exact absurd same (by simp [Entry.key, Field.of])
  · rintro ⟨t, mem⟩ f field here
    rw [required f field here]
    exact List.mem_map_of_mem mem

/-- Pool limits without a repeated key are put into the configuration. -/
theorem effect_distinct (distinct : Distinct es) : ∀ e ∈ es, e.effect = .ok e.put := by
  intro e mem
  cases e with
  | pool ps =>
    have optional : ∀ f ∈ PoolConfig.schema.fields, f.required = false := by decide
    have settled : PoolConfig.form.settle [] PoolConfig.schema.start ps = .ok (.ofEntries ps) := by
      refine PoolConfig.form.settle_ok (fun _ _ => rfl) (distinct.2 ps mem) fun f field required => ?_
      exact absurd required (by simp [optional f field])
    rw [Entry.effect, settled]
    rfl
  | _ => rfl

/-- Pool limits with a repeated key do nothing. -/
theorem distinct_of_effect (distinct : schema.Distinct (es.map Entry.key))
    (acts : ∀ e ∈ es, ∃ change, e.effect = .ok change) : Distinct es := by
  refine ⟨distinct, fun ps mem => ?_⟩
  obtain ⟨change, effect⟩ := acts _ mem
  rw [Entry.effect] at effect
  cases settled : PoolConfig.form.settle [] PoolConfig.schema.start ps with
  | error fault => rw [settled] at effect; cases effect
  | ok p => exact (PoolConfig.form.of_settle_ok settled).1

theorem Entry.put_host (e : Entry) (c : Config) (h : String) :
    e.put { c with host := h } = e.put c ∨ e.put { c with host := h } = { e.put c with host := h } := by
  cases e with
  | host t => exact .inl rfl
  | _ => exact .inr rfl

/-- If a host list comes, it does not matter which one was there before. -/
theorem foldl_put_host (mem : Entry.host t ∈ es) (c : Config) (h : String) :
    es.foldl (fun c e => e.put c) { c with host := h } = es.foldl (fun c e => e.put c) c := by
  induction es generalizing c with
  | nil => cases mem
  | cons e es ih =>
    rw [List.foldl_cons, List.foldl_cons]
    rcases e.put_host c h with same | same
    · rw [same]
    · rcases List.mem_cons.1 mem with rfl | mem
      · rfl
      · rw [same]
        exact ih mem _

/-- An object is read as the configuration of its host list into which all of its entries are put, in
their order. If no host list comes or a key of a field comes twice, it is malformed. -/
theorem ofJson_object {document : String} {w l w' : List Char} (before : Spaces w)
    (written : ObjectText Entry.key Entry.Written es l) (behind : Spaces w')
    (whole : document.toList = w ++ (l ++ w')) :
    (∀ t, Entry.host t ∈ es → Distinct es →
      ofJson document = .ok (es.foldl (fun c e => e.put c) { host := t })) ∧
    ((∀ t, Entry.host t ∉ es) ∨ ¬Distinct es →
      ∃ message, ofJson document = .error (.configuration message)) := by
  have decoded : schema.decode document = form.settle [] schema.start es := by
    rw [Schema.decode, whole]
    exact Schema.decodeChars_reads (form.object_reads written) before behind
  constructor
  · intro t mem distinct
    have settled := form.settle_ok (a := schema.start) (effect_distinct distinct) distinct.1
      (complete_iff.2 ⟨t, mem⟩)
    -- the schema starts with an empty host list
    rw [ofJson, decoded, settled, ← foldl_put_host mem _ t]
    rfl
  · intro wrong
    rw [ofJson, decoded]
    cases settled : form.settle [] schema.start es with
    | error fault => exact ⟨_, rfl⟩
    | ok c =>
      obtain ⟨distinct, complete, acts⟩ := form.of_settle_ok settled
      rcases wrong with missing | repeated
      · obtain ⟨t, mem⟩ := complete_iff.1 complete
        exact absurd mem (missing t)
      · exact absurd (distinct_of_effect distinct acts) repeated

/-- A key with an escape, lists and objects that nobody knows, and pool limits; and nothing at all. -/
theorem ofJson_object_nested :
    let document := " \x7b\"h\\u006fst\": \"a\",\"x\":[\x7b\x7d ,\"\\ud800\"]," ++
      "\"pool\":\x7b\"minIdle\":0\x7d\x7d"
    let es : List Entry := [.host "a", .other "x" (by decide), .pool [.minIdle 0]]
    ((∃ l, ObjectText Entry.key Entry.Written es l ∧ document.toList = [' '] ++ (l ++ [])) ∧
      .host "a" ∈ es ∧ Distinct es ∧
      ofJson document = .ok { host := "a", pool := { minIdle := 0 } }) ∧
    ObjectText Entry.key Entry.Written [] "\x7b\x7d".toList ∧
      ∃ message, ofJson "\x7b\x7d" = .error (.configuration message) := by
  intro document es
  have space : Spaces [' '] := by decide
  have o : HexText 'o'.toNat _ := @HexText.digits '0' '0' '6' 'f' 0 0 6 15 rfl rfl rfl rfl
  have host : Spells "host".toList _ := show Spells ['h', 'o', 's', 't'] _ from
    .plain (by decide) (.hex o (.itself (by decide)))
  have a : TextText "a" _ := ⟨"a".toList, .itself (by decide), rfl⟩
  have x : Spells "x".toList _ := .itself (by decide)
  have lone : HexText _ _ := @HexText.digits 'd' '8' '0' '0' 13 8 0 0 rfl rfl rfl rfl
  have list : Valid .value _ := .list (.elements .nil (.emptyObject .nil) space
    (.element .nil (.text (.hex lone .nil)) .nil))
  have pool : Spells "pool".toList _ := .itself (by decide)
  have minIdle : Spells "minIdle".toList _ := .itself (by decide)
  have zero : IntegerText (0 : UInt32).toNat ['0'] :=
    .natural ⟨⟨by simp, by simp⟩, fun _ => rfl⟩
  have limits : ObjectText PoolConfig.Entry.key PoolConfig.Entry.Written [.minIdle 0] _ :=
    .members (.one (.mk .nil minIdle .nil .nil zero .nil))
  have written : ObjectText Entry.key Entry.Written es _ :=
    .members (.more (.mk .nil host .nil space a .nil) (.more (.mk .nil x .nil .nil list .nil)
      (.one (.mk .nil pool .nil .nil limits .nil))))
  have distinct : Distinct es := by
    refine ⟨by decide, fun ps mem => ?_⟩
    obtain rfl : ps = [.minIdle 0] := by simpa [es] using mem
    decide
  have empty : ObjectText Entry.key Entry.Written [] "\x7b\x7d".toList := .empty .nil
  refine ⟨⟨⟨_, written, by decide⟩, List.mem_cons_self .., distinct, ?_⟩, empty, ?_⟩
  · exact (ofJson_object space written .nil (by decide)).1 "a" (List.mem_cons_self ..) distinct
  · exact (ofJson_object .nil empty .nil rfl).2 (.inl fun t => List.not_mem_nil)

end Config

/-! ## Written documents -/

def Address.given (a : Address) : List (Given Address.schema) := [
  .of "host" (quote a.host) a.host (text_reads (quote_textText _)) rfl,
  .of "port" (toString a.port.toNat) a.port (uint16_reads (toString_natural _)) rfl]

def PoolConfig.given (p : PoolConfig) : List (Given PoolConfig.schema) := [
  .of "maxSize" (toString p.maxSize.toNat) p.maxSize (uint32_reads (toString_natural _)) rfl,
  .of "minIdle" (toString p.minIdle.toNat) p.minIdle (uint32_reads (toString_natural _)) rfl,
  .of "maxWaitMillis" (toString p.maxWaitMillis.toNat) p.maxWaitMillis
    (uint64_reads (toString_natural _)) rfl]

/-- Written pool limits are read within a configuration as well. -/
theorem PoolConfig.toJson_reads (p : PoolConfig) :
    Reads PoolConfig.schema.read p.toJson.toList (.ok p) :=
  Schema.reads_writeObject p.given rfl (by decide) rfl

def Config.given (c : Config) : List (Given Config.schema) :=
  let flag (b : Bool) : Reads flag (writeFlag b).toList (.ok b) := flag_reads (writeFlag_flagText b)
  [.of "host" (quote c.host) c.host (text_reads (quote_textText _)) rfl,
    .of "password" (writeTextOrNull c.password) c.password
      (textOrNull_reads (writeTextOrNull_textOrNull _)) rfl,
    .of "database" (toString c.database.toInt) c.database (int64_reads (toString_integer _)) rfl,
    .of "connectionTimeout" (toString c.connectionTimeout.toInt) c.connectionTimeout
      (int64_reads (toString_integer _)) rfl,
    .of "clientName" (quote c.clientName) c.clientName (text_reads (quote_textText _)) rfl,
    .of "isClusterConnection" (writeFlag c.isClusterConnection) c.isClusterConnection (flag _) rfl,
    .of "connectionPooling" (writeFlag c.connectionPooling) c.connectionPooling (flag _) rfl,
    .of "ssl" (writeFlag c.ssl) c.ssl (flag _) rfl,
    .of "startTls" (writeFlag c.startTls) c.startTls (flag _) rfl,
    .of "verifyPeer" (writeFlag c.verifyPeer) c.verifyPeer (flag _) rfl,
    .of "pool" c.pool.toJson c.pool c.pool.toJson_reads rfl]

/-- The written fields are all that a configuration holds. -/
theorem Config.given_record (c : Config) :
    c.given.foldl (fun a g => g.change a) schema.start = c := by
  simp only [given, Given.of, schema, List.foldl_cons, List.foldl_nil]

/-- Whatever a configuration, pool limits or an address hold, they are read back as written. -/
theorem toJson_roundtrip :
    (∀ c : Config, Config.ofJson c.toJson = .ok c) ∧
      (∀ p : PoolConfig, PoolConfig.schema.decode p.toJson = .ok p) ∧
        ∀ a : Address, Address.schema.decode a.toJson = .ok a := by
  refine ⟨fun c => ?_, fun p => ?_, fun a => ?_⟩
  · have decoded : Config.schema.decode c.toJson = .ok c :=
      Schema.decode_writeObject c.given rfl (by decide) c.given_record
    rw [Config.ofJson, decoded]
  · exact Schema.decode_writeObject p.given rfl (by decide) rfl
  · exact Schema.decode_writeObject a.given rfl (by decide) rfl

end RedisClient
