import Mathlib.Data.List.TakeWhile
import RedisClient.Proofs.Session.Classification
import RedisClient.Proofs.Text.Cutting

/-!
# What callers learn of error replies

The line of an error reply is cut at its first space into a code and a detail, and put together again
for the caller (`serverMessage_ofLine`): a line with a space in it is told as it came, with its first
word as the code. Only the code `NOSUB` is known by its kind but not told by it, so that it is lost on
the way (`nosub_loses_its_code`). Every call that hears of the line fails with what is told of it
(`error_lines_told`).
-/

namespace RedisClient

/-- The first word of a text: what comes before the first space, or all of it. -/
def Text.firstWord (s : String) : String := String.ofList (s.toList.takeWhile (· ≠ ' '))

namespace FailureKind

variable {code : String} {kind : FailureKind}

/-- A kind that is known by a code is told by the same code, but for one. -/
theorem code?_of_ofCode? (known : ofCode? code = some kind) (other : code ≠ "NOSUB") :
    kind.code? = some code := by
  rw [ofCode?, if_neg other] at known
  simpa using List.find?_some known

theorem ofCode?_nosub : ofCode? "NOSUB" = some noSub := by
  rw [ofCode?, if_pos rfl]

end FailureKind

namespace ErrorReply

variable {line code detail : String}

/-! ## Cutting the line -/

theorem ofLine_word (spaceless : ' ' ∉ line.toList) : ofLine line = ⟨line, none⟩ := by
  rw [ofLine, Text.cutFirst_eq_none.2 spaceless]

theorem ofLine_append (spaceless : ' ' ∉ code.toList) :
    ofLine (code ++ " " ++ detail) = ⟨code, some detail⟩ := by
  have cut : Text.cutFirst ' ' (code ++ " " ++ detail).toList = some (code.toList, detail.toList) := by
    simpa using Text.cutFirst_append spaceless
  simp only [ofLine, cut, String.ofList_toList]

/-- A line is a single word, or a word, a space and whatever comes after it. -/
theorem line_cases (line : String) : ' ' ∉ line.toList ∨
    ∃ code detail, ' ' ∉ code.toList ∧ line = code ++ " " ++ detail := by
  cases cut : Text.cutFirst ' ' line.toList with
  | none => exact .inl (Text.cutFirst_eq_none.1 cut)
  | some parts =>
    obtain ⟨code, detail⟩ := parts
    obtain ⟨whole, spaceless⟩ := Text.cutFirst_eq_some.1 cut
    refine .inr ⟨.ofList code, .ofList detail, by simpa using spaceless, ?_⟩
    apply String.toList_injective
    simp [whole]

theorem firstWord_word (spaceless : ' ' ∉ line.toList) : Text.firstWord line = line := by
  have all : line.toList.takeWhile (· ≠ ' ') = line.toList := by
    rw [List.takeWhile_eq_self_iff]
    rintro c mem
    simpa using ne_of_mem_of_not_mem mem spaceless
  rw [Text.firstWord, all, String.ofList_toList]

theorem firstWord_append (spaceless : ' ' ∉ code.toList) :
    Text.firstWord (code ++ " " ++ detail) = code := by
  have word : ∀ c ∈ code.toList, decide (c ≠ ' ') = true := by
    intro c mem
    simpa using ne_of_mem_of_not_mem mem spaceless
  have front : (code ++ " " ++ detail).toList.takeWhile (· ≠ ' ') = code.toList := by
    rw [String.toList_append, String.toList_append, List.append_assoc,
      List.takeWhile_append_of_pos word]
    simp
  rw [Text.firstWord, front, String.ofList_toList]

/-! ## Telling the line -/

/-- The code of an error reply is told to callers, unless it is `NOSUB`. -/
theorem failure_code? (e : ErrorReply) :
    e.failure.code? = if e.code = "NOSUB" then none else some e.code := by
  unfold failure
  by_cases nosub : e.code = "NOSUB"
  · rw [nosub, FailureKind.ofCode?_nosub, if_pos rfl]
    rfl
  · rw [if_neg nosub]
    cases known : FailureKind.ofCode? e.code with
    | none => rfl
    | some kind => exact FailureKind.code?_of_ofCode? known nosub

theorem failure_detail? (code detail : String) :
    (failure ⟨code, some detail⟩).detail? = some detail := by
  unfold failure
  cases FailureKind.ofCode? code <;> rfl

/-- Code and detail are put together again, where there is a code to tell. -/
theorem failure_serverMessage (code detail : String) :
    (failure ⟨code, some detail⟩).serverMessage =
      if code = "NOSUB" then detail else code ++ " " ++ detail := by
  rw [Failure.serverMessage, failure_code?, failure_detail?]
  by_cases nosub : code = "NOSUB" <;> simp [nosub]

/-- A line is told as it came, if there is a space in it and its code is one that is told. -/
theorem serverMessage_ofLine (spaced : ' ' ∈ line.toList) (other : Text.firstWord line ≠ "NOSUB") :
    (ofLine line).failure.serverMessage = line := by
  rcases line_cases line with spaceless | ⟨code, detail, spaceless, rfl⟩
  · exact absurd spaced spaceless
  · rw [firstWord_append spaceless] at other
    rw [ofLine_append spaceless, failure_serverMessage, if_neg other]

theorem ofLine_code (line : String) : (ofLine line).code = Text.firstWord line := by
  rcases line_cases line with spaceless | ⟨code, detail, spaceless, rfl⟩
  · rw [ofLine_word spaceless, firstWord_word spaceless]
  · rw [ofLine_append spaceless, firstWord_append spaceless]

end ErrorReply

namespace Session

open Connector

/-- In every session, a valid call fails like this if it hears of a reply in which this is the first
error. -/
def FailsWith (e : ErrorReply) (error : Error) : Prop :=
  ∀ (net : Network) (config : Config) (connector : Connector),
    (connect net config).value = .ok connector → ∀ (ts : List Step) (slot : Option Nat) c s',
      ((start connector).run ts).2.handle slot = .ok (c, s') →
        ∀ call : Call, call.Valid config.readLimit → ∀ limit,
          limit? config.readLimit call = some limit →
            ∀ (r : Reply) delay, r.errors.head? = some e →
              ({ c with readTimeout := limit } : Connection).Hears s'.now ⟨.reply r, delay⟩ →
                (((start connector).run ts).2.step (.call slot call ⟨.reply r, delay⟩)).1.result =
                  .called (.error error)

/-- A call fails with what callers are told of the error reply. -/
theorem failsWith_toError (e : ErrorReply) : FailsWith e e.failure.toError := by
  intro net config connector connected ts slot c s' got call valid limit inForce r delay first heard
  obtain ⟨f, connected⟩ := connect_ok connected
  obtain ⟨inOrder, -⟩ := run_inOrder connected ts
  obtain ⟨ordered, settings⟩ := handle_every (new_inOrder connected) inOrder got
  rw [← connected.readTimeout_eq] at inForce
  obtain ⟨outcome, result, classified⟩ :=
    call_classified got ordered settings valid.fine inForce ⟨.reply r, delay⟩
  rw [step_result, result, classified.failed r e heard rfl first, ErrorReply.failure_toError]

/-- Every line of an error reply makes calls fail with an error of the server. Its code is the first word
of the line, and if there is a space in the line, its message is the line as it came, whatever stands in
it. Only of a line with the code `NOSUB` the code is not told, and the message is what follows it. -/
theorem error_lines_told (line : String) :
    ∃ code message, FailsWith (.ofLine line) (.server code message) ∧
      (ErrorReply.ofLine line).failure.toError = .server code message ∧
      (Text.firstWord line ≠ "NOSUB" → code = some (Text.firstWord line) ∧
        (' ' ∈ line.toList → message = line ∧
          (Error.server code message).text = "Redis server error: " ++ line)) ∧
      (Text.firstWord line = "NOSUB" → code = none ∧
        ∀ detail, line = "NOSUB " ++ detail → message = detail) := by
  have told := (ErrorReply.ofLine line).failure_toError
  refine ⟨_, _, told ▸ failsWith_toError _, told, fun other => ?_, fun nosub => ?_⟩
  · rw [ErrorReply.failure_code?, ErrorReply.ofLine_code, if_neg other]
    refine ⟨rfl, fun spaced => ?_⟩
    rw [ErrorReply.serverMessage_ofLine spaced other]
    exact ⟨rfl, rfl⟩
  · rw [ErrorReply.failure_code?, ErrorReply.ofLine_code, if_pos nosub]
    refine ⟨rfl, ?_⟩
    rintro detail rfl
    have cut : ErrorReply.ofLine ("NOSUB" ++ " " ++ detail) = ⟨"NOSUB", some detail⟩ :=
      ErrorReply.ofLine_append (by decide)
    rw [show "NOSUB " = "NOSUB" ++ " " from rfl, cut, ErrorReply.failure_serverMessage, if_pos rfl]

/-- Several spaces in a row and at the end are kept, also where the code is a known one and the error
stands inside a list. -/
theorem error_lines_told_spaced :
    let line := "MOVED 7  a:1 "
    (Text.firstWord line ≠ "NOSUB" ∧ ' ' ∈ line.toList) ∧
    ∃ connector, (connect .obliging { host := "cache" }).value = .ok connector ∧
      ((start connector).step (.call none ⟨.get, "user", ()⟩
        ⟨.reply (.array [.int 1, .error (.ofLine line)]), 0⟩)).1.result =
        .called (.error (.server (some "MOVED") line)) := by
  intro line
  have word : Text.firstWord line = "MOVED" := by decide +kernel
  have other : Text.firstWord line ≠ "NOSUB" := by rw [word]; decide
  have spaced : ' ' ∈ line.toList := by decide
  obtain ⟨code, message, fails, -, told, -⟩ := error_lines_told line
  obtain ⟨rfl, same⟩ := told other
  obtain ⟨rfl, -⟩ := same spaced
  rw [word] at fails
  have connected : (connect .obliging { host := "cache" }).value = .ok _ := rfl
  have first : (Reply.array [.int 1, .error (.ofLine line)]).errors.head? = some (.ofLine line) := rfl
  refine ⟨⟨other, spaced⟩, _, connected, ?_⟩
  refine fails _ _ _ connected [] none _ _ rfl ⟨.get, "user", ()⟩ ?_ none rfl _ 0 first ?_
  · exact ⟨Call.refusal_none rfl, fun d n limit => by cases limit⟩
  · exact (Connection.Clean.hears_iff ⟨rfl, rfl, rfl⟩).2 fun limit unlimited => by cases unlimited

/-- The server's code is known, but callers learn neither of it nor of the line. -/
theorem nosub_loses_its_code :
    let line := "NOSUB not subscribed"
    Text.firstWord line = "NOSUB" ∧
      (ErrorReply.ofLine line).failure.toError = .server none "not subscribed" := by
  decide +kernel

end Session

end RedisClient
