import RedisClient.Proofs.Address.Grammar

/-!
# Printing addresses

An address prints as its host, a colon and its port, without the brackets that its host may have
had. Read again, the printed text is cut at its last colon, which is the one before the port; so it
is an entry for the same address, whatever colons, blanks or brackets the host holds
(`Printable.parse_text`). Only a host that begins with an opening bracket is taken for a bracketed
one, whose closing bracket is missing (`Printable.parse_opening`). Lists behave in the same way
(`parseList_printList`), so that reading what was printed never gives another list
(`printed_reread`).
-/

namespace RedisClient.Address

variable {s t host : List Char} {hosts token : String} {port : UInt16} {a : Address}
  {addresses : List Address}

def printList (addresses : List Address) : String := ",".intercalate (addresses.map text)

def OpensBracket (a : Address) : Prop := a.host.toList.head? = some '['

instance (a : Address) : Decidable a.OpensBracket :=
  inferInstanceAs (Decidable (a.host.toList.head? = some '['))

/-- The token begins with two opening brackets, but for blanks before and between them. -/
def DoublyBracketed (token : String) : Prop :=
  ∃ inner, Text.trim token.toList = '[' :: inner ∧
    (inner.dropWhile Text.isBlank).head? = some '['

/-- What holds of every address that is read from a host list. -/
structure Printable (a : Address) : Prop where
  named : a.host ≠ ""
  tight : Text.trim a.host.toList = a.host.toList
  single : ',' ∉ a.host.toList
  unclosed : a.OpensBracket → ']' ∉ a.host.toList

/-! ## Hosts that are read -/

theorem EntryText.tight (h : EntryText (Text.trim s) host port) : Text.trim host = host := by
  generalize eq : Text.trim s = t at h
  cases h with
  | bare => rw [← eq, Text.trim_trim]
  | ported | bracketed | bracketedPorted => exact Text.trim_trim _

theorem EntryText.mem_text (h : EntryText t host port) {c : Char} (mem : c ∈ host) : c ∈ t := by
  cases h with
  | bare => exact mem
  | ported => exact List.mem_append_left _ (Text.mem_of_mem_trim mem)
  | bracketed =>
    exact List.mem_cons_of_mem _ (List.mem_append_left _ (Text.mem_of_mem_trim mem))
  | bracketedPorted =>
    exact List.mem_cons_of_mem _ (List.mem_append_left _ (Text.mem_of_mem_trim mem))

/-- Without its blank ends, the text before a closing bracket begins with an opening one if and only
if the whole text does, but for blanks. -/
theorem head?_trim_inner (inner after : List Char) :
    (Text.trim inner).head? = some '[' ↔
      ((inner ++ ']' :: after).dropWhile Text.isBlank).head? = some '[' := by
  rw [Text.head?_trim, List.dropWhile_append]
  cases inner.dropWhile Text.isBlank with
  | nil => simp [Text.isBlank]
  | cons c rest => simp

/-- The host of an entry that begins with a bracket stands before the first closing one. -/
theorem EntryText.inner {rest : List Char} (h : EntryText ('[' :: rest) host port) :
    ∃ inner after, rest = inner ++ ']' :: after ∧ ']' ∉ inner ∧ host = Text.trim inner := by
  generalize eq : '[' :: rest = t at h
  cases h with
  | bare bracketless | ported bracketless => exact absurd eq.symm (bracketless rest)
  | bracketed first | bracketedPorted first =>
    cases eq
    exact ⟨_, _, rfl, first, rfl⟩

/-- Only in an entry that begins with a bracket the host may begin with one. -/
theorem EntryText.starts (h : EntryText t host port) (tight : Text.trim t = t)
    (opens : host.head? = some '[') : ∃ rest, t = '[' :: rest := by
  cases h with
  | bare => exact List.head?_eq_some_iff.1 opens
  | @ported a b _ =>
    cases a with
    | nil => cases opens
    | cons c a =>
      have solid : ¬Text.isBlank c = true :=
        Text.not_blank_of_head?_trim (s := c :: a ++ ':' :: b) (by rw [tight]; rfl)
      rw [Text.head?_trim, List.dropWhile_cons_of_neg solid] at opens
      cases opens
      exact ⟨_, rfl⟩
  | bracketed | bracketedPorted => exact ⟨_, rfl⟩

theorem EntryText.opens_iff (h : EntryText t host port) (tight : Text.trim t = t) :
    host.head? = some '[' ↔
      ∃ rest, t = '[' :: rest ∧ (rest.dropWhile Text.isBlank).head? = some '[' := by
  constructor
  · intro opens
    obtain ⟨rest, rfl⟩ := h.starts tight opens
    obtain ⟨inner, after, rfl, -, rfl⟩ := h.inner
    exact ⟨_, rfl, (head?_trim_inner inner after).1 opens⟩
  · rintro ⟨rest, rfl, second⟩
    obtain ⟨inner, after, rfl, -, rfl⟩ := h.inner
    exact (head?_trim_inner inner after).2 second

theorem EntryText.unclosed (h : EntryText t host port) (tight : Text.trim t = t)
    (opens : host.head? = some '[') : ']' ∉ host := by
  obtain ⟨rest, rfl⟩ := h.starts tight opens
  obtain ⟨inner, after, -, first, rfl⟩ := h.inner
  exact fun mem => first (Text.mem_of_mem_trim mem)

theorem parse_printable (read : parse token = .ok a) (single : ',' ∉ token.toList) :
    a.Printable := by
  obtain ⟨named, entry⟩ := parse_eq_ok.1 read
  exact {
    named
    tight := entry.tight
    single := fun mem => single (Text.mem_of_mem_trim (entry.mem_text mem))
    unclosed := entry.unclosed (Text.trim_trim _) }

theorem parse_opensBracket (read : parse token = .ok a) :
    a.OpensBracket ↔ DoublyBracketed token :=
  (parse_eq_ok.1 read).2.opens_iff (Text.trim_trim _)

/-! ## Reading a printed address -/

theorem text_toList (a : Address) :
    a.text.toList = a.host.toList ++ ':' :: Nat.toDigits 10 a.port.toNat := by
  have port : (toString a.port.toNat).toList = Nat.toDigits 10 a.port.toNat := Nat.toList_repr
  rw [text, String.toList_append, String.toList_append, port, List.append_assoc]
  rfl

theorem not_blank_of_isDigit {c : Char} (digit : c.isDigit = true) : ¬Text.isBlank c = true := by
  simp only [Char.isDigit, Bool.and_eq_true, decide_eq_true_eq, ge_iff_le, UInt32.le_iff_toNat_le]
    at digit
  simp only [Text.isBlank, Bool.or_eq_true, Bool.and_eq_true, decide_eq_true_eq, beq_iff_eq,
    Char.toNat]
  have low : 48 ≤ c.val.toNat := digit.1
  have high : c.val.toNat ≤ 57 := digit.2
  omega

namespace Printable

/-- A printed address has no blank ends: it begins as its host does, and ends in a digit. -/
theorem trim_text (h : a.Printable) : Text.trim a.text.toList = a.text.toList := by
  have digits := Text.numeral_toDigits a.port.toNat
  rw [text_toList]
  refine Text.trim_eq_self (fun c first => ?_) (fun c last => ?_)
  · have some : a.host.toList ≠ [] := mt String.toList_eq_nil_iff.1 h.named
    obtain ⟨d, rest, eq⟩ := List.exists_cons_of_ne_nil some
    rw [eq] at first
    cases first
    exact Text.not_blank_of_head?_trim (s := a.host.toList) (by rw [h.tight, eq]; rfl)
  · rw [List.getLast?_append_of_ne_nil _ (List.cons_ne_nil _ _),
      List.getLast?_cons_of_ne_nil digits.nonempty] at last
    exact not_blank_of_isDigit (digits.digits c (List.mem_of_getLast? last))

/-- The port is what stands after the last colon. -/
theorem parse_text (h : a.Printable) (bare : ¬a.OpensBracket) : parse a.text = .ok a := by
  have digits := Text.numeral_toDigits a.port.toNat
  have solid {c : Char} (mem : c ∈ Nat.toDigits 10 a.port.toNat) : ¬Text.isBlank c = true :=
    not_blank_of_isDigit (digits.digits c mem)
  have isPort : PortText (Nat.toDigits 10 a.port.toNat) a.port := by
    refine ⟨_, .inl (Text.trim_eq_self (fun c first => ?_) (fun c last => ?_)), digits⟩
    · exact solid (List.mem_of_head? first)
    · exact solid (List.mem_of_getLast? last)
  have last : ':' ∉ Nat.toDigits 10 a.port.toNat := fun mem => by
    cases digits.digits ':' mem
  have bracketless : ∀ rest,
      a.host.toList ++ ':' :: Nat.toDigits 10 a.port.toNat ≠ '[' :: rest := by
    intro rest eq
    cases host : a.host.toList with
    | nil => exact h.named (String.toList_eq_nil_iff.1 host)
    | cons c others =>
      rw [host] at eq
      cases eq
      exact bare (by rw [OpensBracket, host]; rfl)
  have entry := EntryText.ported bracketless last isPort
  rw [h.tight, ← text_toList, ← h.trim_text] at entry
  exact parse_eq_ok.2 ⟨h.named, entry⟩

/-- There is no closing bracket in the host, and none is printed. -/
theorem parse_opening (h : a.Printable) (opens : a.OpensBracket) :
    parse a.text = .error (.unclosedBracket a.text) := by
  obtain ⟨rest, host⟩ : ∃ rest, a.host.toList = '[' :: rest := List.head?_eq_some_iff.1 opens
  have printed : a.text.toList = '[' :: (rest ++ ':' :: Nat.toDigits 10 a.port.toNat) := by
    rw [text_toList, host]
    rfl
  have unclosed : ']' ∉ rest ++ ':' :: Nat.toDigits 10 a.port.toNat := by
    have inHost := h.unclosed opens
    rw [host, List.mem_cons, not_or] at inHost
    rw [List.mem_append, List.mem_cons, not_or, not_or]
    refine ⟨inHost.2, by decide, fun mem => ?_⟩
    cases (Text.numeral_toDigits a.port.toNat).digits ']' mem
  have whole : String.ofList ('[' :: (rest ++ ':' :: Nat.toDigits 10 a.port.toNat)) = a.text := by
    rw [← printed, String.ofList_toList]
  have tight := h.trim_text
  rw [printed] at tight
  rw [parse, printed, parseChars]
  simp only [tight, List.isEmpty_cons, Bool.false_eq_true, if_false, parts, Address.bracketed,
    Text.cutFirst_eq_none.2 unclosed, whole]

end Printable

/-! ## Reading a printed list -/

theorem printList_tokens (some : addresses ≠ []) (printable : ∀ a ∈ addresses, a.Printable) :
    Tokens (printList addresses) (addresses.map text) where
  nonempty := mt List.map_eq_nil_iff.1 some
  joined := rfl
  single := by
    rw [List.forall_mem_map]
    intro a mem
    rw [text_toList, List.mem_append, List.mem_cons, not_or, not_or]
    refine ⟨(printable a mem).single, by decide, fun digit => ?_⟩
    cases (Text.numeral_toDigits a.port.toNat).digits ',' digit

theorem printList_not_blank (some : addresses ≠ []) :
    Text.trim (printList addresses).toList ≠ [] := by
  obtain ⟨a, rest, rfl⟩ := List.exists_cons_of_ne_nil some
  have colon : ':' ∈ (printList (a :: rest)).toList := by
    have first : ':' ∈ a.text.toList := by
      rw [text_toList]
      simp
    rw [printList, String.toList_intercalate]
    cases rest with
    | nil => simpa using first
    | cons b rest =>
      simp only [List.map_cons, List.intercalate_cons_cons, List.mem_append]
      exact .inl (.inl first)
  intro blank
  cases Text.trim_eq_nil_iff.1 blank ':' colon

/-- A printed list is read as it was, or the first host that begins with a bracket is at fault. -/
theorem parseList_printList (some : addresses ≠ [])
    (printable : ∀ a ∈ addresses, a.Printable) :
    parseList (printList addresses) =
      (addresses.find? fun a => a.OpensBracket).elim (.ok addresses)
        fun a => .error (.unclosedBracket a.text) := by
  rw [parseList_tokens (printList_tokens some printable) (printList_not_blank some)]
  clear some
  induction addresses with
  | nil => rfl
  | cons a rest ih =>
    obtain ⟨first, others⟩ := List.forall_mem_cons.1 printable
    rw [List.map_cons]
    by_cases opens : a.OpensBracket
    · rw [Results.mapM_cons_error (first.parse_opening opens), List.find?_cons_of_pos (by simpa)]
      rfl
    · rw [Results.mapM_cons_ok (first.parse_text opens), ih others,
        List.find?_cons_of_neg (by simpa)]
      cases rest.find? fun a => a.OpensBracket <;> rfl

/-- Every address of a list comes from a token, which has no comma in it. -/
theorem mem_parseList {tokens : List String} (isList : Tokens hosts tokens)
    (read : parseList hosts = .ok addresses) :
    ∀ a ∈ addresses, ∃ token ∈ tokens, ',' ∉ token.toList ∧ parse token = .ok a := by
  have left : Text.trim hosts.toList ≠ [] := by
    intro blank
    rw [parseList_blank blank] at read
    cases read
  rw [parseList_tokens isList left] at read
  intro a mem
  obtain ⟨token, token_mem, parsed⟩ := Results.mem_of_mapM_eq_ok read mem
  exact ⟨token, token_mem, isList.single token token_mem, parsed⟩

/-- A host list that can be read is printed and read again. If no host begins with a bracket, this
gives the same addresses. Otherwise the first host that does is at fault, which is an error of the
configuration; and a host begins with a bracket only if its token begins with two. So no other list
is ever read. -/
theorem printed_reread (read : parseList hosts = .ok addresses) :
    (parseList (printList addresses) = .ok addresses ↔ ∀ a ∈ addresses, ¬a.OpensBracket) ∧
    ((∃ a ∈ addresses, a.OpensBracket) → ∃ a,
      (addresses.find? fun a => a.OpensBracket) = some a ∧
      parseList (printList addresses) = .error (.unclosedBracket a.text) ∧
      (Fault.unclosedBracket a.text).toError =
        .configuration ("unclosed '[' in host entry '" ++ a.text ++ "'")) ∧
    (∀ tokens, Tokens hosts tokens → ∀ a ∈ addresses, a.OpensBracket →
      ∃ token ∈ tokens, parse token = .ok a ∧ DoublyBracketed token) ∧
    ∀ others, parseList (printList addresses) = .ok others → others = addresses := by
  have printable : ∀ a ∈ addresses, a.Printable := by
    obtain ⟨tokens, isList⟩ := tokens_exist hosts
    intro a mem
    obtain ⟨token, -, single, parsed⟩ := mem_parseList isList read a mem
    exact parse_printable parsed single
  have again := parseList_printList (parseList_ne_nil read) printable
  have source (tokens : List String) (isList : Tokens hosts tokens) (a : Address)
      (mem : a ∈ addresses) (opens : a.OpensBracket) :
      ∃ token ∈ tokens, parse token = .ok a ∧ DoublyBracketed token := by
    obtain ⟨token, token_mem, -, parsed⟩ := mem_parseList isList read a mem
    exact ⟨token, token_mem, parsed, (parse_opensBracket parsed).1 opens⟩
  cases found : addresses.find? fun a => a.OpensBracket with
  | none =>
    rw [found] at again
    have bare : ∀ a ∈ addresses, ¬a.OpensBracket := by simpa using found
    refine ⟨iff_of_true again bare, fun ⟨a, mem, opens⟩ => absurd opens (bare a mem), source, ?_⟩
    intro others same
    rw [again] at same
    cases same
    rfl
  | some a =>
    rw [found] at again
    have opens : a.OpensBracket := by simpa using List.find?_some found
    refine ⟨iff_of_false ?_ fun bare => bare a (List.mem_of_find?_eq_some found) opens,
      fun _ => ⟨a, rfl, again, rfl⟩, source, ?_⟩
    · intro same
      rw [again] at same
      cases same
    · intro others same
      rw [again] at same
      cases same

/-- A host that stood in brackets is read again without them; one that keeps a bracket is not. -/
theorem printed_reread_brackets :
    parseList "[::1], cache :+080" = .ok [⟨"::1", 6379⟩, ⟨"cache", 80⟩] ∧
    parseList (printList [⟨"::1", 6379⟩, ⟨"cache", 80⟩]) =
      .ok [⟨"::1", 6379⟩, ⟨"cache", 80⟩] ∧
    parseList "cache,[ [::1]" = .ok [⟨"cache", 6379⟩, ⟨"[::1", 6379⟩] ∧
    parseList (printList [⟨"cache", 6379⟩, ⟨"[::1", 6379⟩]) =
      .error (.unclosedBracket "[::1:6379") := by
  have bare : parseList "[::1], cache :+080" = .ok [⟨"::1", 6379⟩, ⟨"cache", 80⟩] := by
    decide +kernel
  have kept : parseList "cache,[ [::1]" = .ok [⟨"cache", 6379⟩, ⟨"[::1", 6379⟩] := by
    decide +kernel
  refine ⟨bare, (printed_reread bare).1.2 (by decide +kernel), kept, ?_⟩
  obtain ⟨-, refused, -⟩ := printed_reread kept
  obtain ⟨a, found, again, -⟩ := refused (by decide +kernel)
  have first : ([⟨"cache", 6379⟩, ⟨"[::1", 6379⟩] : List Address).find?
      (fun a => a.OpensBracket) = some ⟨"[::1", 6379⟩ := by decide +kernel
  rw [first] at found
  cases found
  exact again

end RedisClient.Address
