import RedisClient.Proofs.Json.Scalars

/-!
# Skipping takes exactly one value

The skipper of unknown values goes over any valid value, however deeply lists and objects are nested
in it, and stops right behind it (`value_skipped`). Every lemma says what the machine does with one
part of a document when anything follows this part, so that the lemmas can be chained.
-/

namespace RedisClient.Json

variable {place start : Place} {frames outer : List Frame} {key : Bool} {c : Char}
  {l w v s rest body ds fraction exponent : List Char}

/-- Goes on behind a whole value inside `frames`: outside of them, all is done. -/
def resume : List Frame → Reader Unit
  | [] => fun rest => .ok ((), rest)
  | frames => skipFrom .closed frames

/-! ## Single characters -/

theorem skipFrom_go {next : Place} {inner : List Frame}
    (goes : move place frames c s = .go next inner) :
    skipFrom place frames (c :: s) = skipFrom next inner s := by
  rw [skipFrom, goes]

theorem skipFrom_after (closes : move place frames c s = afterValue outer) :
    skipFrom place frames (c :: s) = resume outer s := by
  rw [skipFrom, closes]
  cases outer <;> rfl

/-- The machine goes over all characters with which its place stays the same. -/
theorem skipFrom_stays {p : Char → Bool}
    (stays : ∀ c, p c = true → ∀ s, move place frames c s = .go place frames)
    (all : ∀ c ∈ w, p c = true) (s : List Char) :
    skipFrom place frames (w ++ s) = skipFrom place frames s := by
  induction w with
  | nil => rfl
  | cons c w ih =>
    rw [List.cons_append, skipFrom_go (stays c (all c (List.mem_cons_self ..)) _)]
    exact ih fun d mem => all d (List.mem_cons_of_mem c mem)

/-! ## Spaces -/

theorem isSpace_cases (space : isSpace c = true) : c = ' ' ∨ c = '\n' ∨ c = '\t' ∨ c = '\r' := by
  simpa [isSpace, or_assoc] using space

/-- The places at which spaces may come. -/
def Roomy (place : Place) (frames : List Frame) : Prop :=
  place = .value ∨ place = .opened ∨ place = .key ∨ place = .colon ∨ place = .closed ∧ frames ≠ []

theorem skipFrom_spaces (room : Roomy place frames) (spaces : Spaces w) (s : List Char) :
    skipFrom place frames (w ++ s) = skipFrom place frames s := by
  refine skipFrom_stays (fun c space _ => ?_) spaces s
  rcases room with rfl | rfl | rfl | rfl | ⟨rfl, inside⟩
  · simp only [move, space, if_true]
  · simp only [move, openFrame, space, if_true]
  · simp only [move, space, if_true]
  · rcases isSpace_cases space with rfl | rfl | rfl | rfl <;> rfl
  · obtain ⟨frame, frames, rfl⟩ := List.exists_cons_of_ne_nil inside
    cases frame <;> rcases isSpace_cases space with rfl | rfl | rfl | rfl <;> rfl

theorem Spaces.ends (spaces : Spaces w) (ends : Ends s) : Ends (w ++ s) := by
  cases w with
  | nil => exact ends
  | cons c w =>
    rintro d ⟨⟩
    exact .inl (spaces c (List.mem_cons_self ..))

theorem ends_nil : Ends [] := by
  rintro c ⟨⟩

theorem ends_comma (s : List Char) : Ends (',' :: s) := by
  rintro c ⟨⟩
  exact .inr (.inl rfl)

theorem ends_bracket (s : List Char) : Ends (']' :: s) := by
  rintro c ⟨⟩
  exact .inr (.inr (.inl rfl))

theorem ends_brace (s : List Char) : Ends ('\x7d' :: s) := by
  rintro c ⟨⟩
  exact .inr (.inr (.inr rfl))

/-! ## Words and texts -/

theorem skipFrom_word (c : Char) (word : List Char) (rest : List Char) :
    skipFrom (.word (c :: word)) frames (c :: (word ++ rest)) = resume frames rest := by
  induction word generalizing c with
  | nil => exact skipFrom_after (by simp only [move, if_true])
  | cons d word ih =>
    have goes : move (.word (c :: d :: word)) frames c (d :: (word ++ rest)) =
        .go (.word (d :: word)) frames := by simp only [move, if_true]
    rw [List.cons_append, skipFrom_go goes]
    exact ih d

theorem skipFrom_body (inside : Body body) (s : List Char) :
    skipFrom (.text key) frames (body ++ s) = skipFrom (.text key) frames s := by
  induction inside with
  | nil => rfl
  | @plain c body itself _ ih =>
    have goes : move (.text key) frames c (body ++ s) = .go (.text key) frames := by
      simp only [move, itself.noQuote, itself.noBackslash, itself.noControl, if_false]
    rw [List.cons_append, skipFrom_go goes, ih]
  | @short letter body escape _ ih =>
    have ne : letter ≠ 'u' := by
      rintro rfl
      cases escape
    have goes : move (.escape key) frames letter (body ++ s) = .go (.text key) frames := by
      simp only [move, ne, if_false, escape, if_true]
    rw [List.cons_append, skipFrom_go rfl, List.cons_append, skipFrom_go goes, ih]
  | @hex n digits body number _ ih =>
    have goes : move (.escape key) frames 'u' (digits ++ (body ++ s)) = .go (.hex key 4) frames := by
      simp only [move, if_true, readHex_hexText number]
    rw [List.cons_append, skipFrom_go rfl, List.cons_append, List.append_assoc, skipFrom_go goes, ← ih]
    -- the digits were looked at ahead, and are counted off now
    cases number
    rfl

theorem skipFrom_text (inside : Body body) (rest : List Char) :
    skipFrom (.text false) frames (body ++ '"' :: rest) = resume frames rest := by
  rw [skipFrom_body inside]
  exact skipFrom_after rfl

theorem skipFrom_key (inside : Body body) (s : List Char) :
    skipFrom .key frames ('"' :: (body ++ '"' :: s)) = skipFrom .colon frames s := by
  rw [skipFrom_go rfl, skipFrom_body inside]
  exact skipFrom_go rfl

/-! ## Numbers -/

/-- The places after digits of a number that may end there. -/
def MayEnd (place : Place) : Prop :=
  place = .zero ∨ place = .whole ∨ place = .fraction ∨ place = .exponentDigits

theorem skipFrom_mayEnd (may : MayEnd place) (ends : Ends rest) :
    skipFrom place frames rest = resume frames rest := by
  cases rest with
  | nil => rcases may with rfl | rfl | rfl | rfl <;> cases frames <;> rfl
  | cons c rest =>
    obtain ⟨digit, point, lower, upper⟩ := ends.not_number
    have closes : move place frames c rest = closeValue frames c := by
      rcases may with rfl | rfl | rfl | rfl <;>
        simp [move, endDigits, digit, point, lower, upper]
    rw [skipFrom, closes]
    cases frames <;> rfl

/-- The places at which any number of digits may come. -/
def Counts (place : Place) : Prop :=
  place = .whole ∨ place = .fraction ∨ place = .exponentDigits

theorem skipFrom_more (counts : Counts place) (digits : ∀ d ∈ ds, d.isDigit = true) (s : List Char) :
    skipFrom place frames (ds ++ s) = skipFrom place frames s := by
  refine skipFrom_stays (fun d digit _ => ?_) digits s
  rcases counts with rfl | rfl | rfl <;> simp only [move, endDigits, digit, if_true]

/-- A first digit, and more digits after it. -/
theorem skipFrom_digits {again : Place} (counts : Counts again) (digits : Digits ds)
    (first : ∀ d, d.isDigit = true → ∀ s, move place frames d s = .go again frames) (s : List Char) :
    skipFrom place frames (ds ++ s) = skipFrom again frames s := by
  obtain ⟨nonempty, all⟩ := digits
  obtain ⟨d, ds, rfl⟩ := List.exists_cons_of_ne_nil nonempty
  rw [List.cons_append, skipFrom_go (first d (all d (List.mem_cons_self ..)) _)]
  exact skipFrom_more counts (fun d mem => all d (List.mem_cons_of_mem _ mem)) s

theorem skipFrom_exponent (scaled : ExponentText exponent)
    (here : place = .zero ∨ place = .whole ∨ place = .fraction) (ends : Ends rest) :
    skipFrom place frames (exponent ++ rest) = resume frames rest := by
  cases scaled with
  | none =>
    refine skipFrom_mayEnd ?_ ends
    rcases here with rfl | rfl | rfl <;> simp [MayEnd]
  | @some e sign ds letter signed digits =>
    have goes : ∀ s, move place frames e s = .go .exponent frames := by
      intro s
      rcases here with rfl | rfl | rfl <;> rcases letter with rfl | rfl <;> rfl
    rw [List.cons_append, skipFrom_go (goes _), List.append_assoc]
    have counts : Counts .exponentDigits := .inr (.inr rfl)
    have done : skipFrom .exponentDigits frames rest = resume frames rest :=
      skipFrom_mayEnd (.inr (.inr (.inr rfl))) ends
    have afterSign : skipFrom .exponentDigit frames (ds ++ rest) = resume frames rest := by
      rw [skipFrom_digits counts digits, done]
      exact fun d digit _ => by simp only [move, firstDigit, digit, if_true]
    rcases signed with rfl | rfl | rfl
    · rw [List.nil_append, skipFrom_digits counts digits, done]
      intro d digit s
      have noSign : ¬(d = '+' ∨ d = '-') := by
        rintro (rfl | rfl) <;> cases digit
      simp only [move, firstDigit, noSign, digit, if_true, if_false]
    · exact (skipFrom_go rfl).trans afterSign
    · exact (skipFrom_go rfl).trans afterSign

theorem skipFrom_fraction (fractional : FractionText fraction) (scaled : ExponentText exponent)
    (here : place = .zero ∨ place = .whole) (ends : Ends rest) :
    skipFrom place frames (fraction ++ (exponent ++ rest)) = resume frames rest := by
  cases fractional with
  | none => exact skipFrom_exponent scaled (or_assoc.1 (.inl here)) ends
  | @some ds digits =>
    have goes : ∀ s, move place frames '.' s = .go .point frames := by
      intro s
      rcases here with rfl | rfl <;> rfl
    have first : ∀ d, d.isDigit = true → ∀ s, move .point frames d s = .go .fraction frames :=
      fun d digit _ => by simp only [move, firstDigit, digit, if_true]
    rw [List.cons_append, skipFrom_go (goes _), skipFrom_digits (.inr (.inl rfl)) digits first]
    exact skipFrom_exponent scaled (.inr (.inr rfl)) ends

/-- A digit that is not zero begins a whole number, also after a sign. -/
theorem move_lead (here : start = .value ∨ start = .number) (digit : c.isDigit = true)
    (nonzero : c ≠ '0') (s : List Char) : move start frames c s = .go .whole frames := by
  rcases here with rfl | rfl
  · have solid := (isDigit_not_space digit).1
    simp only [move, solid, Bool.false_eq_true, if_false]
    unfold startValue
    split
    case h_8 => exact absurd rfl nonzero
    case h_9 => simp only [digit, if_true]
    all_goals cases digit
  · simp only [move, nonzero, if_false, firstDigit, digit, if_true]

theorem skipFrom_whole (whole : Whole ds) (fractional : FractionText fraction)
    (scaled : ExponentText exponent) (here : start = .value ∨ start = .number) (ends : Ends rest) :
    skipFrom start frames (ds ++ (fraction ++ (exponent ++ rest))) = resume frames rest := by
  obtain ⟨⟨nonempty, digits⟩, lead⟩ := whole
  obtain ⟨d, ds, rfl⟩ := List.exists_cons_of_ne_nil nonempty
  by_cases zero : d = '0'
  · subst zero
    cases lead rfl
    have goes : ∀ s, move start frames '0' s = .go .zero frames := by
      intro s
      rcases here with rfl | rfl <;> rfl
    rw [List.singleton_append, skipFrom_go (goes _)]
    exact skipFrom_fraction fractional scaled (.inl rfl) ends
  · have digit := digits d (List.mem_cons_self ..)
    have others : ∀ d ∈ ds, d.isDigit = true := fun d mem => digits d (List.mem_cons_of_mem _ mem)
    rw [List.cons_append, skipFrom_go (move_lead here digit zero _), skipFrom_more (.inl rfl) others]
    exact skipFrom_fraction fractional scaled (.inr rfl) ends

theorem skipFrom_number (number : NumberText l) (ends : Ends rest) :
    skipFrom .value frames (l ++ rest) = resume frames rest := by
  cases number with
  | positive whole fractional scaled =>
    rw [List.append_assoc, List.append_assoc]
    exact skipFrom_whole whole fractional scaled (.inl rfl) ends
  | negative whole fractional scaled =>
    rw [List.cons_append, skipFrom_go rfl, List.append_assoc, List.append_assoc]
    exact skipFrom_whole whole fractional scaled (.inr rfl) ends

/-! ## Lists and objects -/

/-- A value begins with a character that is no space, no comma and does not close a list. -/
theorem Valid.starts (valid : Valid .value v) :
    ∃ c tail, v = c :: tail ∧ isSpace c = false ∧ c ≠ ']' ∧ c ≠ ',' := by
  cases valid with
  | number literal =>
    obtain ⟨c, tail, rfl, rfl | digit⟩ := literal.starts
    · exact ⟨'-', tail, rfl, by decide⟩
    · refine ⟨c, tail, rfl, (isDigit_not_space digit).1, ?_, ?_⟩ <;>
      · rintro rfl
        cases digit
  | _ => exact ⟨_, _, rfl, by decide⟩

/-- The first value of a list is found behind its bracket as a further one behind its comma. -/
theorem skipFrom_element (here : start = .opened ∨ start = .value) (before : Spaces w)
    (value : Valid .value v) (s : List Char) :
    skipFrom start (.list :: outer) (w ++ (v ++ s)) = skipFrom .value (.list :: outer) (v ++ s) := by
  rcases here with rfl | rfl
  · obtain ⟨c, tail, rfl, solid, unclosed, -⟩ := value.starts
    rw [skipFrom_spaces (.inr (.inl rfl)) before, List.cons_append, skipFrom, skipFrom]
    simp [move, openFrame, solid, unclosed]
  · exact skipFrom_spaces (.inl rfl) before _

/-- The first key of an object is found behind its brace as a further one behind its comma. -/
theorem skipFrom_member (here : start = .opened ∨ start = .key) (before : Spaces w) (s : List Char) :
    skipFrom start (.object :: outer) (w ++ '"' :: s) =
      skipFrom .key (.object :: outer) ('"' :: s) := by
  rcases here with rfl | rfl
  · rw [skipFrom_spaces (.inr (.inl rfl)) before, skipFrom_go rfl, skipFrom_go rfl]
  · exact skipFrom_spaces (.inr (.inr (.inl rfl))) before _

/-- What the machine does with a part of a document, whatever encloses it. -/
def Skipped : Part → List Char → Prop
  | .value, l => ∀ {frames rest}, Ends rest → skipFrom .value frames (l ++ rest) = resume frames rest
  | .elements, l => ∀ {start outer rest}, start = .opened ∨ start = .value →
    skipFrom start (.list :: outer) (l ++ ']' :: rest) = resume outer rest
  | .members, l => ∀ {start outer rest}, start = .opened ∨ start = .key →
    skipFrom start (.object :: outer) (l ++ '\x7d' :: rest) = resume outer rest

/-- A value inside of a list or object and the spaces behind it. -/
theorem Skipped.inner {w' : List Char} {frame : Frame} (value : Skipped .value v)
    (behind : Spaces w') (ends : Ends s) :
    skipFrom .value (frame :: outer) (v ++ (w' ++ s)) = skipFrom .closed (frame :: outer) s := by
  rw [value (behind.ends ends), resume]
  · exact skipFrom_spaces (.inr (.inr (.inr (.inr ⟨rfl, by simp⟩)))) behind s
  · simp

/-- A key, its colon, its value, and the spaces between them. -/
theorem Skipped.keyed {w₁ w₂ w' : List Char} (here : start = .opened ∨ start = .key)
    (before : Spaces w) (key : Body body) (beforeColon : Spaces w₁) (behindColon : Spaces w₂)
    (value : Skipped .value v) (behind : Spaces w') (ends : Ends s) :
    skipFrom start (.object :: outer)
        (w ++ '"' :: (body ++ '"' :: (w₁ ++ ':' :: (w₂ ++ (v ++ (w' ++ s)))))) =
      skipFrom .closed (.object :: outer) s := by
  rw [skipFrom_member here before, skipFrom_key key,
    skipFrom_spaces (.inr (.inr (.inr (.inl rfl)))) beforeColon, skipFrom_go rfl,
    skipFrom_spaces (.inl rfl) behindColon, value.inner behind ends]

theorem Valid.skipped {part : Part} (valid : Valid part l) : Skipped part l := by
  -- `Skipped` is about any open frames, so that it can be used inside of lists and objects
  induction valid with
  | null | yes | no => exact fun _ => (skipFrom_go rfl).trans (skipFrom_word ..)
  | number number => exact skipFrom_number number
  | text inside =>
    intro frames rest _
    rw [List.cons_append, List.append_assoc, skipFrom_go rfl]
    exact skipFrom_text inside rest
  | emptyList spaces =>
    intro frames rest _
    rw [List.cons_append, List.append_assoc, skipFrom_go rfl, skipFrom_spaces (.inr (.inl rfl)) spaces]
    exact skipFrom_after rfl
  | list _ ih =>
    intro frames rest _
    rw [List.cons_append, List.append_assoc, skipFrom_go rfl]
    exact ih (.inl rfl)
  | emptyObject spaces =>
    intro frames rest _
    rw [List.cons_append, List.append_assoc, skipFrom_go rfl, skipFrom_spaces (.inr (.inl rfl)) spaces]
    exact skipFrom_after rfl
  | object _ ih =>
    intro frames rest _
    rw [List.cons_append, List.append_assoc, skipFrom_go rfl]
    exact ih (.inl rfl)
  | element before value behind ih =>
    intro start outer rest here
    simp only [List.append_assoc]
    rw [skipFrom_element here before value, ih.inner behind (ends_bracket rest)]
    exact skipFrom_after rfl
  | elements before value behind _ ih others =>
    intro start outer rest here
    simp only [List.append_assoc, List.cons_append]
    rw [skipFrom_element here before value, ih.inner behind (ends_comma _), skipFrom_go rfl]
    exact others (.inr rfl)
  | member before key beforeColon behindColon _ behind ih =>
    intro start outer rest here
    simp only [List.append_assoc, List.cons_append]
    rw [Skipped.keyed here before key beforeColon behindColon ih behind (ends_brace rest)]
    exact skipFrom_after rfl
  | members before key beforeColon behindColon _ behind _ ih others =>
    intro start outer rest here
    simp only [List.append_assoc, List.cons_append]
    rw [Skipped.keyed here before key beforeColon behindColon ih behind (ends_comma _),
      skipFrom_go rfl]
    exact others (.inr rfl)

/-- The skipper takes one whole value, and nothing of what follows it. -/
theorem value_skipped (valid : Valid .value v) : Reads skipValue v (.ok ()) := by
  intro w rest spaces ends
  rw [skipValue, skipFrom_spaces (.inl rfl) spaces]
  exact valid.skipped ends

end RedisClient.Json
