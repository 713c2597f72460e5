import Mathlib.Data.List.DropRight
import RedisClient.Proofs.Json.Numbers
import RedisClient.Proofs.Json.Objects

/-!
# Reading any value

Whatever valid value stands where a field expects one: the reader of the field comes to one result with
it, the same in all surroundings (`Decides`). It takes the whole value, or refuses it. The readers of
scalars take the values that begin as theirs do, and refuse all others as values of the wrong type
(`decides_of_starts`).
-/

namespace RedisClient.Json

variable {α β : Type} {v w w' l s body rest : List Char} {c : Char}

/-- The reader comes to one result with each valid value, whatever stands around it. -/
def Decides (read : Reader α) : Prop := ∀ ⦃v⦄, Valid .value v → Reads read v (alone read v)

/-! ## Texts -/

/-- After the first surrogate of a pair there is a second one, or a fault. -/
theorem Body.second (inside : Body body) (high : Nat) :
    (∃ fault, ∀ rest, readLowSurrogate high (body ++ '"' :: rest) = .error fault) ∨
      ∃ c more, Body more ∧ more.length < body.length ∧
        ∀ rest, readLowSurrogate high (body ++ '"' :: rest) = .ok (c, more ++ '"' :: rest) := by
  cases inside with
  | nil => exact .inl ⟨.cutSurrogate, fun rest => rfl⟩
  | plain itself others =>
    refine .inl ⟨.cutSurrogate, fun rest => ?_⟩
    unfold readLowSurrogate
    split <;> simp_all [itself.noBackslash]
  | @short letter more escape others =>
    refine .inl ⟨.cutSurrogate, fun rest => ?_⟩
    have other : letter ≠ 'u' := by
      rintro rfl
      cases escape
    unfold readLowSurrogate
    split <;> simp_all
  | @hex n digits more number others =>
    have read (rest : List Char) :
        readLowSurrogate high ('\\' :: 'u' :: (digits ++ more) ++ '"' :: rest) =
          if isLowSurrogate n then .ok (joinSurrogates high n, more ++ '"' :: rest)
          else .error .loneSurrogate := by
      simp only [List.cons_append, List.append_assoc, readLowSurrogate, readHex_hexText number]
    cases low : isLowSurrogate n with
    | false => exact .inl ⟨.loneSurrogate, fun rest => by rw [read, low]; rfl⟩
    | true =>
      refine .inr ⟨_, more, others, ?_, fun rest => by rw [read, low]; rfl⟩
      simp only [List.length_cons, List.length_append]
      omega

/-- An escape is a character, and more of the text follows it, or it is a fault. -/
theorem Body.escape (inside : Body ('\\' :: s)) :
    (∃ fault, ∀ rest, readEscape (s ++ '"' :: rest) = .error fault) ∨
      ∃ c more, Body more ∧ more.length < s.length ∧
        ∀ rest, readEscape (s ++ '"' :: rest) = .ok (c, more ++ '"' :: rest) := by
  generalize whole : '\\' :: s = body at inside
  cases inside with
  | nil => cases whole
  | plain itself =>
    cases whole
    exact absurd rfl itself.noBackslash
  | @short letter more escape others =>
    cases whole
    obtain ⟨c, escape⟩ := Option.isSome_iff_exists.1 escape
    exact .inr ⟨c, more, others, by simp, fun rest => readEscape_short escape _⟩
  | @hex n digits more number others =>
    cases whole
    have read (rest : List Char) : readEscape ('u' :: (digits ++ more) ++ '"' :: rest) =
        if isLowSurrogate n then .error .loneSurrogate
        else if isHighSurrogate n then readLowSurrogate n (more ++ '"' :: rest)
        else .ok (Char.ofNat n, more ++ '"' :: rest) := by
      simp only [List.cons_append, List.append_assoc, readEscape, readHex_hexText number]
    have shorter : more.length < ('u' :: (digits ++ more)).length := by
      simp only [List.length_cons, List.length_append]
      omega
    by_cases low : isLowSurrogate n = true
    · exact .inl ⟨.loneSurrogate, fun rest => by rw [read, if_pos low]⟩
    · by_cases high : isHighSurrogate n = true
      · rcases others.second n with ⟨fault, fails⟩ | ⟨c, rest', more', less, reads⟩
        · exact .inl ⟨fault, fun rest => by rw [read, if_neg low, if_pos high, fails]⟩
        · exact .inr ⟨c, rest', more', Nat.lt_trans less shorter,
            fun rest => by rw [read, if_neg low, if_pos high, reads]⟩
      · exact .inr ⟨_, more, others, shorter, fun rest => by rw [read, if_neg low, if_neg high]⟩

/-- Characters are read up to the quote, or up to an escape that stands for none. -/
theorem readChars_body (inside : Body body) : ∃ result : Except Fault (List Char),
    ∀ {fuel}, body.length < fuel → ∀ done rest, readChars fuel done (body ++ '"' :: rest) =
      result.map fun t => (String.ofList (done.reverse ++ t), rest) := by
  -- an escape can take two steps of the grammar, so the induction is on the length
  induction size : body.length using Nat.strongRecOn generalizing body with
  | ind size ih =>
    subst size
    -- a first character, and what there is by induction behind it
    have next {c : Char} {more : List Char} (inside : Body more) (less : more.length < body.length)
        (first : ∀ k done rest, readChars (k + 1) done (body ++ '"' :: rest) =
          readChars k (c :: done) (more ++ '"' :: rest)) : ∃ result : Except Fault (List Char),
        ∀ {fuel}, body.length < fuel → ∀ done rest, readChars fuel done (body ++ '"' :: rest) =
          result.map fun t => (String.ofList (done.reverse ++ t), rest) := by
      obtain ⟨result, reads⟩ := ih _ less inside rfl
      refine ⟨result.map (c :: ·), fun {fuel} enough done rest => ?_⟩
      obtain ⟨k, rfl⟩ := Nat.exists_eq_add_of_lt enough
      rw [first, reads (by omega)]
      cases result <;> simp [Except.map]
    cases body with
    | nil =>
      refine ⟨.ok [], fun {fuel} enough done rest => ?_⟩
      obtain ⟨k, rfl⟩ := Nat.exists_eq_add_of_lt enough
      simp [readChars, Except.map]
    | cons c more =>
      by_cases escaped : c = '\\'
      · subst escaped
        rcases inside.escape with ⟨fault, fails⟩ | ⟨c, more, others, less, reads⟩
        · refine ⟨.error fault, fun {fuel} enough done rest => ?_⟩
          obtain ⟨k, rfl⟩ := Nat.exists_eq_add_of_lt enough
          simp only [List.cons_append, readChars, fails, Except.map]
        · exact next others (Nat.lt_succ_of_lt less) fun k done rest => readChars_escape (reads rest)
      · cases inside with
        | plain itself others =>
          exact next others (Nat.lt_succ_self _) fun k done rest => readChars_plain itself
        | short => exact absurd rfl escaped
        | hex => exact absurd rfl escaped

theorem readText_body (inside : Body body) : ∃ result : Except Fault String,
    ∀ rest, readText (body ++ '"' :: rest) = result.map (·, rest) := by
  obtain ⟨result, reads⟩ := readChars_body inside
  refine ⟨result.map .ofList, fun rest => ?_⟩
  rw [readText, reads (by rw [List.length_append]; omega)]
  cases result <;> rfl

/-! ## Scalars -/

/-- What is found at the place of another value. -/
def blame (expected : String) : Except Fault Found → Fault
  | .ok found => .wrongType found expected
  | .error fault => fault

theorem mismatch_number {expected : String} (start : c = '-' ∨ c.isDigit = true) (s : List Char) :
    mismatch expected (c :: s) = blame expected ((readSigned (c :: s)).map (·.1.found)) := by
  rcases start with rfl | digit
  · have signed : readSigned ('-' :: s) = readNumber true s := rfl
    rw [signed]
    cases read : readNumber true s <;> simp only [mismatch, read] <;> rfl
  · rw [readSigned_digit digit]
    unfold mismatch
    dsimp only
    split
    case h_9 =>
      rename_i same
      cases same
      rw [if_pos digit]
      cases readNumber false (c :: s) <;> rfl
    all_goals
      rename_i same
      cases same
      try cases digit

/-- Another value than the expected one is refused in the same words in all surroundings. -/
theorem mismatch_valid (valid : Valid .value v) (expected : String) :
    ∃ fault, ∀ rest, Ends rest → mismatch expected (v ++ rest) = fault := by
  cases valid with
  | null => exact ⟨.wrongType .null expected, fun rest _ => rfl⟩
  | yes => exact ⟨.wrongType (.flag true) expected, fun rest _ => rfl⟩
  | no => exact ⟨.wrongType (.flag false) expected, fun rest _ => rfl⟩
  | number literal =>
    obtain ⟨result, reads, -⟩ := literal.read
    refine ⟨blame expected (result.map Number.found), fun rest ends => ?_⟩
    have read := reads rest ends
    obtain ⟨c, tail, rfl, start⟩ := literal.starts
    rw [List.cons_append] at read ⊢
    rw [mismatch_number start, read]
    cases result <;> rfl
  | text inside =>
    obtain ⟨result, reads⟩ := readText_body inside
    refine ⟨blame expected (result.map .text), fun rest _ => ?_⟩
    have read := reads rest
    rw [List.cons_append, List.append_assoc, List.singleton_append]
    cases result <;> simp only [mismatch, read] <;> rfl
  | emptyList | list => exact ⟨.wrongType .list expected, fun rest _ => rfl⟩
  | emptyObject | object => exact ⟨.wrongType .object expected, fun rest _ => rfl⟩

theorem skipSpace_skipSpace (s : List Char) : skipSpace (skipSpace s) = skipSpace s :=
  List.dropWhile_idempotent _ _

/-- A reader decides if it takes the values that begin in its own ways, and refuses all others. -/
theorem decides_of_starts {read : Reader α} (own : Char → Prop) (expected : String)
    (skips : ∀ s, read s = read (skipSpace s))
    (refuses : ∀ {c} s, isSpace c = false → ¬own c →
      read (c :: s) = .error (mismatch expected (c :: s)))
    (takes : ∀ {c s}, own c → Valid .value (c :: s) → ∃ result : Except Fault α,
      ∀ rest, Ends rest → read (c :: s ++ rest) = result.map (·, rest)) : Decides read := by
  intro v valid
  suffices ∃ result : Except Fault α, ∀ rest, Ends rest → read (v ++ rest) = result.map (·, rest) by
    obtain ⟨result, taken⟩ := this
    have reads : Reads read v result := by
      intro w rest spaces ends
      rw [skips, skipSpace_spaces spaces, ← skips, taken rest ends]
    rwa [reads.alone]
  obtain ⟨c, s, rfl, solid, -⟩ := valid.starts
  by_cases mine : own c
  · exact takes mine valid
  · obtain ⟨fault, blamed⟩ := mismatch_valid valid expected
    refine ⟨.error fault, fun rest ends => ?_⟩
    rw [List.cons_append, refuses _ solid mine, ← List.cons_append, blamed rest ends]
    rfl

theorem Valid.quoted (valid : Valid .value ('"' :: s)) : ∃ body, Body body ∧ s = body ++ ['"'] := by
  generalize whole : '"' :: s = v at valid
  cases valid with
  | text inside =>
    cases whole
    exact ⟨_, inside, rfl⟩
  | number literal => exact absurd (whole ▸ literal).start (by decide)
  | _ => cases whole

theorem Valid.numeral (start : c = '-' ∨ c.isDigit = true) (valid : Valid .value (c :: s)) :
    NumberText (c :: s) := by
  generalize whole : c :: s = v at valid
  cases valid with
  | number literal => exact literal
  | _ =>
    cases whole
    simp at start

theorem text_mismatch (solid : isSpace c = false) (other : c ≠ '"') (s : List Char) :
    text (c :: s) = .error (mismatch "a string" (c :: s)) := by
  rw [text, skipSpace_cons solid]
  split
  · rename_i same
    cases same
    exact absurd rfl other
  · rfl

theorem text_decides : Decides text := by
  refine decides_of_starts (· = '"') "a string" (fun s => ?_)
    (fun s solid other => text_mismatch solid other s) ?_
  · rw [text, text, skipSpace_skipSpace]
  · rintro _ s rfl valid
    obtain ⟨body, inside, rfl⟩ := valid.quoted
    obtain ⟨result, reads⟩ := readText_body inside
    refine ⟨result, fun rest _ => ?_⟩
    rw [← reads rest, List.cons_append, List.append_assoc]
    rfl

theorem Valid.word (start : c = 'n' ∨ c = 't' ∨ c = 'f') (valid : Valid .value (c :: s)) :
    c :: s = ['n', 'u', 'l', 'l'] ∨ c :: s = ['t', 'r', 'u', 'e'] ∨
      c :: s = ['f', 'a', 'l', 's', 'e'] := by
  generalize whole : c :: s = v at valid ⊢
  cases valid with
  | null => exact .inl rfl
  | yes => exact .inr (.inl rfl)
  | no => exact .inr (.inr rfl)
  | number literal =>
    have sign := (whole ▸ literal).start
    rcases start with rfl | rfl | rfl <;> simp at sign
  | _ =>
    cases whole
    simp at start

theorem textOrNull_decides : Decides textOrNull := by
  refine decides_of_starts (fun c => c = 'n' ∨ c = '"') "a string" (fun s => ?_)
    (fun s solid other => ?_) ?_
  · rw [textOrNull, textOrNull, skipSpace_skipSpace]
  · obtain ⟨null, quote⟩ := not_or.1 other
    rw [textOrNull, skipSpace_cons solid]
    split
    · rename_i same
      cases same
      exact absurd rfl null
    · rw [text_mismatch solid quote]
      rfl
  · rintro _ s (rfl | rfl) valid
    · rcases valid.word (.inl rfl) with same | same | same <;> cases same
      exact ⟨.ok none, fun rest _ => rfl⟩
    · refine ⟨(alone text ('"' :: s)).map some, fun rest ends => ?_⟩
      have read := text_decides valid [] rest Spaces.nil ends
      have asText : textOrNull ('"' :: s ++ rest) =
          (text ('"' :: s ++ rest)).map fun read => (some read.1, read.2) := rfl
      rw [List.nil_append] at read
      rw [asText, read]
      cases alone text ('"' :: s) <;> rfl

theorem flag_decides : Decides flag := by
  refine decides_of_starts (fun c => c = 't' ∨ c = 'f') "a boolean" (fun s => ?_)
    (fun s solid other => ?_) ?_
  · rw [flag, flag, skipSpace_skipSpace]
  · rw [flag, skipSpace_cons solid]
    split
    · rename_i same
      cases same
      exact absurd (.inl rfl) other
    · rename_i same
      cases same
      exact absurd (.inr rfl) other
    · rfl
  · rintro _ s (rfl | rfl) valid
    · rcases valid.word (.inr (.inl rfl)) with same | same | same <;> cases same
      exact ⟨.ok true, fun rest _ => rfl⟩
    · rcases valid.word (.inr (.inr rfl)) with same | same | same <;> cases same
      exact ⟨.ok false, fun rest _ => rfl⟩

theorem number_decides (expected : String) (accept : Int → Option α) :
    Decides (number expected accept) := by
  refine decides_of_starts (fun c => c = '-' ∨ c.isDigit = true) expected (fun s => ?_)
    (fun s solid other => ?_) ?_
  · rw [number, number, skipSpace_skipSpace]
  · obtain ⟨sign, digit⟩ := not_or.1 other
    rw [number, skipSpace_cons solid]
    split
    · rename_i same
      cases same
      exact absurd rfl sign
    · rename_i same
      cases same
      rw [if_neg digit]
    · rename_i same
      cases same
  · intro c s start valid
    obtain ⟨result, reads, -⟩ := number_literal (valid.numeral start)
    exact ⟨result, fun rest ends => reads [] rest Spaces.nil ends⟩

theorem bounded_decides (expected : String) (low bound : Int) (ofInt : Int → α) :
    Decides (bounded expected low bound ofInt) :=
  number_decides _ _

theorem Field.of_alone {name : String} {read : Reader β} {put : α → β → α} {required : Bool} :
    alone (Field.of name read put required).read v = (alone read v).map fun b a => put a b := by
  simp only [alone, Field.of]
  cases read v <;> rfl

theorem Field.of_alone_eq_ok {name : String} {read : Reader β} {put : α → β → α} {required : Bool}
    {change : α → α} : alone (Field.of name read put required).read v = .ok change ↔
      ∃ b, alone read v = .ok b ∧ (fun a => put a b) = change := by
  rw [Field.of_alone]
  cases alone read v <;> simp [Except.map]

/-- A field decides if the reader of its values does. -/
theorem Field.of_decides {name : String} {read : Reader β} {put : α → β → α} {required : Bool}
    (decides : Decides read) : Decides (Field.of name read put required).read := by
  intro v valid
  rw [Field.of_alone]
  exact Field.of_reads (decides valid)

end RedisClient.Json
