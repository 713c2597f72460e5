import RedisClient.Proofs.Results
import RedisClient.Reply.Convert

/-!
# What reading a reply can come to

A reply is read in two stages. If it holds errors, the first of them in reading order is the
failure of the whole (`firstError?_eq_head?`, `Shape.read_of_error`), and this failure is one of the
server (`ErrorReply.failure_toError`). If it holds none, a value is taken out of it. That can fail
as well, but only because something was of the wrong type (`Shape.ofValue_mistyped`), which is no
failure of the server.
-/

namespace RedisClient

/-! ## Errors inside a reply -/

namespace Reply

mutual

/-- All errors in a reply, in reading order. -/
def errors : Reply → List ErrorReply
  | error e => [e]
  | array items | set items => errorsIn items
  | map entries => errorsAmong entries
  | _ => []

def errorsIn : List Reply → List ErrorReply
  | [] => []
  | r :: rest => errors r ++ errorsIn rest

def errorsAmong : List (Reply × Reply) → List ErrorReply
  | [] => []
  | (key, value) :: rest => errors key ++ errors value ++ errorsAmong rest

end

mutual

/-- The search for the first error finds the first of them all. -/
theorem firstError?_eq_head? : ∀ r : Reply, r.firstError? = r.errors.head?
  | error _ => rfl
  | array items => firstErrorIn?_eq_head? items
  | set items => firstErrorIn?_eq_head? items
  | map entries => firstErrorAmong?_eq_head? entries
  | nil | int _ | bulk _ | okay | simple _ | double _ | flag _ | verbatim _ _ | bigNumber _ => rfl

theorem firstErrorIn?_eq_head? : ∀ items, firstErrorIn? items = (errorsIn items).head?
  | [] => rfl
  | r :: rest => by
    simp only [firstErrorIn?, errorsIn, List.head?_append]
    rw [firstError?_eq_head? r, firstErrorIn?_eq_head? rest]

theorem firstErrorAmong?_eq_head? : ∀ entries,
    firstErrorAmong? entries = (errorsAmong entries).head?
  | [] => rfl
  | (key, value) :: rest => by
    simp only [firstErrorAmong?, errorsAmong, List.head?_append]
    rw [firstError?_eq_head? key, firstError?_eq_head? value, firstErrorAmong?_eq_head? rest]

end

theorem firstError?_eq_none {r : Reply} : r.firstError? = none ↔ r.errors = [] := by
  rw [firstError?_eq_head?, List.head?_eq_none_iff]

end Reply

/-- No kind that is known by its code is a fault of the settings, of a type or of the client. -/
theorem FailureKind.ofCode?_some {code : String} {kind : FailureKind}
    (h : FailureKind.ofCode? code = some kind) :
    kind ≠ .invalidClientConfig ∧ kind ≠ .type ∧ kind ≠ .client := by
  unfold FailureKind.ofCode? at h
  split at h
  · cases h
    decide
  · have found := List.find?_some h
    simp only [beq_iff_eq] at found
    refine ⟨?_, ?_, ?_⟩ <;> intro eq <;> rw [eq] at found <;> cases found

theorem ErrorReply.failure_kind (e : ErrorReply) : e.failure.kind ≠ .invalidClientConfig ∧
    e.failure.kind ≠ .type ∧ e.failure.kind ≠ .client := by
  unfold ErrorReply.failure
  cases known : FailureKind.ofCode? e.code with
  | none => simp [Failure.kind]
  | some kind => exact FailureKind.ofCode?_some known

/-- Callers see an error reply as a failure of the server, with the code that belongs to it. -/
theorem ErrorReply.failure_toError (e : ErrorReply) :
    e.failure.toError = .server e.failure.code? e.failure.serverMessage := by
  obtain ⟨settings, type, client⟩ := e.failure_kind
  simp only [Failure.toError]

/-! ## Values of the wrong type -/

/-- The function fails only because something is of the wrong type. -/
def Mistyped {α β : Type} (read : α → Except Failure β) : Prop :=
  ∀ a f, read a = .error f → f.kind = .type

/-- Callers see a failure of type as one that they did not expect. -/
theorem Failure.toError_of_type {f : Failure} (h : f.kind = .type) :
    f.toError = .unexpected f.text := by
  simp only [Failure.toError, h]

namespace Mistyped

variable {α β γ : Type} {read : α → Except Failure β}

theorem map (h : Mistyped read) (g : β → γ) : Mistyped fun a => (read a).map g := by
  intro a f failed
  cases eq : read a with
  | ok b => simp [eq, Except.map] at failed
  | error f' =>
    simp only [eq, Except.map, Except.error.injEq] at failed
    exact failed ▸ h a f' eq

theorem mapM (h : Mistyped read) : Mistyped fun items : List α => items.mapM read := by
  intro items f failed
  obtain ⟨before, a, after, -, -, fails⟩ := Results.mapM_eq_error.1 failed
  exact h a f fails

end Mistyped

namespace Reply

variable {α : Type} {read : Reply → Except Failure α} {failure : Failure}

theorem decodeText_mistyped (h : failure.kind = .type) : Mistyped (decodeText failure) := by
  intro bytes f failed
  unfold decodeText at failed
  cases text : String.fromUTF8? bytes with
  | none =>
    simp only [text, Option.elim_none, Except.error.injEq] at failed
    exact failed ▸ h
  | some s => simp [text] at failed

theorem textOr_mistyped (h : failure.kind = .type) : Mistyped (textOr failure) := by
  intro r f failed
  unfold textOr at failed
  split at failed
  · exact decodeText_mistyped h _ f failed
  all_goals cases failed
  rfl

theorem toNumber_mistyped (ofInt : Int64 → α) (ofDouble : Binary64 → α)
    (read? : String → Option α) : Mistyped (toNumber ofInt ofDouble read?) := by
  intro r f failed
  have fromText (s : String) (failed : (read? s).elim
      (Except.error (r.incompatible "Could not convert from string.")) Except.ok =
        Except.error f) : f.kind = .type := by
    cases text : read? s with
    | none =>
      simp only [text, Option.elim_none, Except.error.injEq] at failed
      exact failed ▸ rfl
    | some a => simp [text] at failed
  unfold toNumber at failed
  split at failed
  · cases failed
  · cases failed
  · exact fromText _ failed
  · rename_i bytes
    cases text : decodeText notReadable bytes with
    | error f' =>
      simp only [text, Except.bind, Except.error.injEq] at failed
      exact failed ▸ decodeText_mistyped rfl bytes f' text
    | ok s =>
      simp only [text, Except.bind] at failed
      exact fromText s failed
  · cases failed
    rfl

theorem toFlag_mistyped : Mistyped toFlag := by
  intro r f failed
  unfold toFlag at failed
  split at failed
  iterate 4 cases failed
  · split at failed
    · cases failed
    · split at failed <;> cases failed
      rfl
  · split at failed
    · cases failed
    · split at failed <;> cases failed
      rfl
  · cases failed
    rfl

theorem toOption_mistyped (h : Mistyped read) : Mistyped (toOption read) := by
  intro r f failed
  unfold toOption at failed
  split at failed
  · cases failed
  · exact h.map some _ f failed

theorem toList_mistyped (h : Mistyped read) : Mistyped (toList read) := by
  intro r f failed
  unfold toList at failed
  split at failed
  · exact h.mapM _ f failed
  · exact h.mapM _ f failed
  · cases failed
  · exact h.map ([·]) _ f failed
  · have one : Mistyped fun entry => read (Reply.map [entry]) := fun entry f => h _ f
    exact one.mapM _ f failed
  · cases failed
    rfl

theorem toBytes_mistyped : Mistyped toBytes := by
  intro r f failed
  unfold toBytes at failed
  split at failed
  · cases failed
  · exact (toList_mistyped (toNumber_mistyped _ _ _)).map _ _ f failed

theorem toTextSet_mistyped : Mistyped toTextSet := by
  intro r f failed
  have texts : Mistyped toText := textOr_mistyped rfl
  unfold toTextSet at failed
  split at failed
  · exact texts.mapM.map _ _ f failed
  · exact texts.mapM.map _ _ f failed
  · cases failed
  · cases failed
    rfl

theorem toTexts_mistyped (h : failure.kind = .type) :
    Mistyped fun pair : Reply × Reply => toTexts failure pair.1 pair.2 := by
  intro pair f failed
  have texts := textOr_mistyped h
  simp only [toTexts] at failed
  split at failed
  · cases failed
  · rename_i wrong
    cases failed
    exact texts _ f wrong
  · rename_i wrong
    cases failed
    exact texts _ f wrong

theorem toEntry_mistyped : Mistyped toEntry := toTexts_mistyped (rfl : notText.kind = .type)

theorem toTextMap_mistyped : Mistyped toTextMap := by
  intro r f failed
  have entries := toEntry_mistyped.mapM.map Dict.ofList
  unfold toTextMap at failed
  split at failed
  · cases failed
  · exact entries _ f failed
  · split at failed
    · exact entries _ f failed
    · cases failed
      rfl
  · cases failed
    rfl

theorem toPair_mistyped : Mistyped toPair := by
  intro r f failed
  unfold toPair at failed
  split at failed
  · exact toTexts_mistyped rfl (_, _) f failed
  · cases failed
    rfl
  · exact toTexts_mistyped rfl (_, _) f failed
  · cases failed
    rfl

end Reply

namespace Shape

variable {shape : Shape} {r : Reply} {e : ErrorReply}

/-- Whatever value is wanted, it can only fail to be taken out because of a type. -/
theorem ofValue_mistyped (shape : Shape) : Mistyped shape.ofValue := by
  have texts : Mistyped Reply.toText := Reply.textOr_mistyped rfl
  have ints : Mistyped Reply.toInt64 := Reply.toNumber_mistyped _ _ _
  have reals : Mistyped Reply.toBinary64 := Reply.toNumber_mistyped _ _ _
  cases shape with
  | text => exact texts.map _
  | optionalText => exact (Reply.toOption_mistyped texts).map _
  | int => exact ints.map _
  | optionalInt => exact (Reply.toOption_mistyped ints).map _
  | real => exact reals.map _
  | optionalReal => exact (Reply.toOption_mistyped reals).map _
  | flag => exact Reply.toFlag_mistyped.map _
  | texts => exact (Reply.toList_mistyped texts).map _
  | maybeTexts => exact (Reply.toList_mistyped (Reply.toOption_mistyped texts)).map _
  | set => exact Reply.toTextSet_mistyped.map _
  | map => exact Reply.toTextMap_mistyped.map _
  | optionalPair => exact (Reply.toOption_mistyped Reply.toPair_mistyped).map _
  | optionalBytes => exact (Reply.toOption_mistyped Reply.toBytes_mistyped).map _

theorem read_of_error (h : r.errors.head? = some e) : shape.read r = .error e.failure := by
  simp only [read, Reply.firstError?_eq_head?, h]

theorem read_of_value (h : r.errors = []) : shape.read r = shape.ofValue r := by
  simp only [read, Reply.firstError?_eq_none.2 h]

/-- Only the search for a pair ends abruptly, and only in a map without entries. -/
theorem crashes_iff : shape.crashes r = true ↔ shape = .optionalPair ∧ r = .map [] := by
  unfold crashes
  split
  · simp
  · rename_i other
    simp only [Bool.false_eq_true, false_iff]
    rintro ⟨rfl, rfl⟩
    exact other rfl rfl

end Shape

end RedisClient
