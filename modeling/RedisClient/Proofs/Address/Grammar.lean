import RedisClient.Address
import RedisClient.Proofs.Results
import RedisClient.Proofs.Text.Blank
import RedisClient.Proofs.Text.Cutting
import RedisClient.Proofs.Text.Digits

/-!
# The grammar of addresses

`EntryText` says which texts are entries for which host and port, in four forms, and `Tokens` which
texts a host list is made of. The parsers accept these and nothing else (`parse_grammar`): every cut
that they make is the only one that there is, so no text is an entry for two addresses, and none that
could be cut in another way is refused.
-/

namespace RedisClient.Address

variable {s t host : List Char} {entry hosts : String} {port : UInt16} {tokens : List String}
  {fault : Fault}

/-! ## Ports -/

/-- The text without its blank ends is a numeral of the port, with an optional `+` before it. As
there is no port above 65535, such a text has at most this value. -/
def PortText (s : List Char) (port : UInt16) : Prop :=
  ∃ digits, (Text.trim s = digits ∨ Text.trim s = '+' :: digits) ∧
    Text.Numeral digits port.toNat

theorem readPort?_eq_some : readPort? s = some port ↔ PortText s port := by
  rw [readPort?, Option.bind_eq_some_iff]
  constructor
  · rintro ⟨n, read, small⟩
    by_cases lt : n < UInt16.size
    · rw [if_pos lt, Option.some.injEq] at small
      subst small
      rw [PortText, UInt16.toNat_ofNat_of_lt' lt]
      exact Text.readUnsigned?_eq_some.1 read
    · rw [if_neg lt] at small
      cases small
  · intro text
    refine ⟨port.toNat, Text.readUnsigned?_eq_some.2 text, ?_⟩
    rw [if_pos port.toNat_lt, UInt16.ofNat_toNat]

theorem portOf_eq_ok : portOf entry s = .ok port ↔ PortText s port := by
  rw [← readPort?_eq_some, portOf]
  cases readPort? s <;> simp

/-! ## Entries -/

/-- The text, which has no blank ends, names the host and the port. -/
inductive EntryText : List Char → List Char → UInt16 → Prop
  /-- Only a host. -/
  | bare {t : List Char} (bracketless : ∀ rest, t ≠ '[' :: rest) (single : ':' ∉ t) :
    EntryText t t defaultPort
  /-- Host and port, apart at the last colon. -/
  | ported {a b : List Char} {port : UInt16} (bracketless : ∀ rest, a ++ ':' :: b ≠ '[' :: rest)
    (last : ':' ∉ b) (isPort : PortText b port) : EntryText (a ++ ':' :: b) (Text.trim a) port
  /-- Only a host, in brackets. -/
  | bracketed {a : List Char} (first : ']' ∉ a) :
    EntryText ('[' :: (a ++ [']'])) (Text.trim a) defaultPort
  /-- A host in brackets, and a port. -/
  | bracketedPorted {a b : List Char} {port : UInt16} (first : ']' ∉ a) (isPort : PortText b port) :
    EntryText ('[' :: (a ++ ']' :: ':' :: b)) (Text.trim a) port

theorem parts_of_bracketless (bracketless : ∀ rest, t ≠ '[' :: rest) :
    parts t = plain (String.ofList t) t := by
  unfold parts
  split
  · exact absurd rfl (bracketless _)
  · rfl

/-- A port that is added to a host which is known already. -/
theorem withPort_eq_ok {known : List Char} :
    (portOf entry s).map (fun p => (known, p)) = .ok (host, port) ↔
      host = known ∧ PortText s port := by
  rw [← portOf_eq_ok]
  cases portOf entry s with
  | error fault =>
    constructor
    · intro read
      cases read
    · rintro ⟨-, read⟩
      cases read
  | ok p =>
    constructor
    · intro read
      cases read
      exact ⟨rfl, rfl⟩
    · rintro ⟨rfl, read⟩
      cases read
      rfl

/-- A bracketed entry is cut at the first closing bracket, and goes on with a colon if at all. -/
theorem bracketed_eq_ok (read : bracketed entry s = .ok (host, port)) :
    EntryText ('[' :: s) host port := by
  rw [Address.bracketed] at read
  cases cut : Text.cutFirst ']' s with
  | none =>
    rw [cut] at read
    cases read
  | some pair =>
    obtain ⟨a, rest⟩ := pair
    obtain ⟨rfl, first⟩ := Text.cutFirst_eq_some.1 cut
    rw [cut] at read
    split at read
    case h_1 absent => cases absent
    case h_2 alone =>
      cases alone
      cases read
      exact .bracketed first
    case h_3 a b ported =>
      cases ported
      obtain ⟨rfl, isPort⟩ := withPort_eq_ok.1 read
      exact .bracketedPorted first isPort
    case h_4 => cases read

/-- An entry without brackets is cut at the last colon, if it has any. -/
theorem plain_eq_ok (bracketless : ∀ rest, t ≠ '[' :: rest)
    (read : plain entry t = .ok (host, port)) : EntryText t host port := by
  rw [plain] at read
  cases cut : Text.cutLast ':' t with
  | none =>
    rw [cut] at read
    cases read
    exact .bare bracketless (Text.cutLast_eq_none.1 cut)
  | some pair =>
    obtain ⟨a, b⟩ := pair
    obtain ⟨rfl, last⟩ := Text.cutLast_eq_some.1 cut
    rw [cut] at read
    obtain ⟨rfl, isPort⟩ := withPort_eq_ok.1 read
    exact .ported bracketless last isPort

theorem parts_eq_ok : parts t = .ok (host, port) ↔ EntryText t host port := by
  constructor
  · intro read
    by_cases brackets : ∃ rest, t = '[' :: rest
    · obtain ⟨rest, rfl⟩ := brackets
      exact bracketed_eq_ok read
    · have bracketless : ∀ rest, t ≠ '[' :: rest := fun rest eq => brackets ⟨rest, eq⟩
      rw [parts_of_bracketless bracketless] at read
      exact plain_eq_ok bracketless read
  · intro text
    cases text with
    | bare bracketless single =>
      rw [parts_of_bracketless bracketless, plain, Text.cutLast_eq_none.2 single]
    | ported bracketless last isPort =>
      rw [parts_of_bracketless bracketless, plain, Text.cutLast_append last]
      exact withPort_eq_ok.2 ⟨rfl, isPort⟩
    | bracketed first =>
      simp only [parts, Address.bracketed, Text.cutFirst_append first]
    | bracketedPorted first isPort =>
      simp only [parts, Address.bracketed, Text.cutFirst_append first]
      exact withPort_eq_ok.2 ⟨rfl, isPort⟩

/-- What is read is a host and a port that the text names, if there is anything of a host. -/
theorem parseChars_eq_ok :
    parseChars s = .ok ⟨String.ofList host, port⟩ ↔
      host ≠ [] ∧ EntryText (Text.trim s) host port := by
  rw [← parts_eq_ok, parseChars]
  constructor
  · intro read
    split at read
    · cases read
    · split at read
      case h_1 => cases read
      case h_2 => cases read
      case h_3 host' port' named eq =>
        simp only [Except.ok.injEq, Address.mk.injEq, String.ofList_inj] at read
        obtain ⟨rfl, rfl⟩ := read
        exact ⟨named, eq⟩
  · rintro ⟨named, eq⟩
    obtain ⟨c, rest, rfl⟩ := List.exists_cons_of_ne_nil named
    have left : ¬(Text.trim s).isEmpty = true := by
      intro empty
      rw [List.isEmpty_iff.1 empty] at eq
      cases eq
    rw [if_neg left, eq]

theorem parse_eq_ok {text host : String} :
    parse text = .ok ⟨host, port⟩ ↔
      host ≠ "" ∧ EntryText (Text.trim text.toList) host.toList port := by
  have read : parseChars text.toList = .ok ⟨String.ofList host.toList, port⟩ ↔ host.toList ≠ [] ∧
      EntryText (Text.trim text.toList) host.toList port := parseChars_eq_ok
  rw [String.ofList_toList, ne_eq, String.toList_eq_nil_iff] at read
  exact read

/-! ## Lists -/

/-- The texts between the commas of a host list. -/
structure Tokens (hosts : String) (tokens : List String) : Prop where
  nonempty : tokens ≠ []
  joined : ",".intercalate tokens = hosts
  single : ∀ token ∈ tokens, ',' ∉ token.toList

theorem tokens_iff : Tokens hosts tokens ↔
    hosts.toList.splitOn ',' = tokens.map String.toList := by
  rw [Text.splitOn_eq_iff, List.forall_mem_map, ne_eq, List.map_eq_nil_iff]
  have joined : [','].intercalate (tokens.map String.toList) = hosts.toList ↔
      ",".intercalate tokens = hosts := by
    rw [← String.toList_inj, String.toList_intercalate]
    rfl
  rw [joined]
  exact ⟨fun ⟨nonempty, joined, single⟩ => ⟨nonempty, joined, single⟩,
    fun ⟨nonempty, joined, single⟩ => ⟨nonempty, joined, single⟩⟩

/-- Every text can be taken for a list in one way. -/
theorem tokens_exist (hosts : String) : ∃ tokens, Tokens hosts tokens := by
  refine ⟨(hosts.toList.splitOn ',').map String.ofList, tokens_iff.2 ?_⟩
  simp

theorem isBlankText_iff : Text.isBlankText hosts = true ↔ Text.trim hosts.toList = [] := by
  rw [Text.isBlankText, List.all_eq_true, Text.trim_eq_nil_iff]

/-- A list that is not blank is gone through token by token. -/
theorem parseList_tokens (isList : Tokens hosts tokens) (left : Text.trim hosts.toList ≠ []) :
    parseList hosts = tokens.mapM parse := by
  rw [parseList, if_neg (mt isBlankText_iff.1 left), tokens_iff.1 isList, List.mapM_map]
  rfl

theorem parseList_blank (blank : Text.trim hosts.toList = []) :
    parseList hosts = .error .blankList := by
  rw [parseList, if_pos (isBlankText_iff.2 blank)]

/-- A host list that can be read names some server. -/
theorem parseList_ne_nil {addresses : List Address} (read : parseList hosts = .ok addresses) :
    addresses ≠ [] := by
  by_cases blank : Text.trim hosts.toList = []
  · rw [parseList_blank blank] at read
    cases read
  · obtain ⟨tokens, isList⟩ := tokens_exist hosts
    rw [parseList_tokens isList blank, Results.mapM_eq_ok] at read
    rintro rfl
    cases read
    exact isList.nonempty rfl

/-- A text is read as a host and a port exactly if it is an entry for them and the host is not empty;
otherwise there is an error of the configuration. A host list can be taken apart into tokens. If it
is not blank and all of them are entries it is read as their addresses, in order. Otherwise it has
the fault of the first token that is none, or if it is blank, a fault of its own. -/
theorem parse_grammar :
    (∀ text host port, parse text = .ok ⟨host, port⟩ ↔
      host ≠ "" ∧ EntryText (Text.trim text.toList) host.toList port) ∧
    (∀ text, (¬∃ host port, host ≠ "" ∧ EntryText (Text.trim text.toList) host.toList port) →
      ∃ fault message, parse text = .error fault ∧ fault.toError = .configuration message) ∧
    ∀ hosts, (∃ tokens, Tokens hosts tokens) ∧ ∀ tokens, Tokens hosts tokens →
      (∀ addresses, parseList hosts = .ok addresses ↔ Text.trim hosts.toList ≠ [] ∧
        List.Forall₂ (fun token address => parse token = .ok address) tokens addresses) ∧
      ∀ fault, parseList hosts = .error fault ↔
        (Text.trim hosts.toList = [] ∧ fault = .blankList) ∨
        (Text.trim hosts.toList ≠ [] ∧ ∃ before token after, tokens = before ++ token :: after ∧
          (∀ t ∈ before, ∃ address, parse t = .ok address) ∧ parse token = .error fault) := by
  refine ⟨fun text host port => parse_eq_ok, fun text none => ?_, fun hosts => ?_⟩
  · cases read : parse text with
    | ok address => exact absurd ⟨address.host, address.port, parse_eq_ok.1 read⟩ none
    | error fault => exact ⟨fault, fault.message, rfl, rfl⟩
  · refine ⟨tokens_exist hosts, fun tokens isList => ?_⟩
    by_cases blank : Text.trim hosts.toList = []
    · rw [parseList_blank blank]
      simp [blank, eq_comm]
    · rw [parseList_tokens isList blank]
      refine ⟨fun addresses => ?_, fun fault => ?_⟩
      · rw [Results.mapM_eq_ok, and_iff_right blank]
      · rw [Results.mapM_eq_error, and_iff_right blank, or_iff_right fun own => blank own.1]

example : parse " [ ::1 ]: +080 " = .ok ⟨"::1", 80⟩ := by decide +kernel

/-- A blank list has one token, which is no entry; but the fault of the list is another. -/
theorem blank_list_has_its_own_fault :
    Tokens "" [""] ∧ parse "" = .error .emptyEntry ∧ parseList "" = .error .blankList ∧
      Fault.blankList.toError ≠ Fault.emptyEntry.toError := by
  refine ⟨⟨by simp, rfl, by simp⟩, rfl, rfl, by decide⟩

end RedisClient.Address
