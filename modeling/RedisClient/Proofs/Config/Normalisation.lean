import RedisClient.Proofs.Text.Blank
import RedisClient.Target

/-!
# Normalised targets

What stands for "not set" is dropped when a target is built: a blank password, a negative database, a
client name with nothing but blanks in it. A target without such values is `Normal`. Every target that
is built is normal (`build_normal`), and a normal target is what is built from its own values
(`build_of_normal`). A configuration drops the same values on its own account, which makes no
difference to its targets: they have just the values that are to be used (`normalised_once`).
-/

namespace RedisClient

namespace Text

variable {s : List Char} {c : Char}

/-- A text and what is left of it after trimming are blank alike at the end: not at all. -/
theorem not_blank_of_getLast?_trim (last : (trim s).getLast? = some c) : ¬isBlank c = true := by
  rw [trim, trimEnd_eq] at last
  have some : (s.dropWhile isBlank).rdropWhile isBlank ≠ [] := by
    intro none
    rw [none] at last
    cases last
  have kept := List.rdropWhile_last_not isBlank (s.dropWhile isBlank) some
  rw [List.getLast?_eq_some_getLast some, Option.some.injEq] at last
  exact last ▸ kept

theorem isBlankText_eq_false {t : String} :
    isBlankText t = false ↔ ∃ c ∈ t.toList, ¬isBlank c = true := by
  simp [isBlankText]

end Text

theorem unlessBlank_eq_some {t : Option String} {s : String} :
    unlessBlank t = some s ↔ t = some s ∧ Text.isBlankText s = false := by
  simp [unlessBlank, Option.filter_eq_some_iff]

theorem trimmedUnlessBlank_eq_some {t : Option String} {s : String} :
    trimmedUnlessBlank t = some s ↔
      ∃ r, t = some r ∧ Text.trimmed r = s ∧ s ≠ "" := by
  simp [trimmedUnlessBlank, Option.filter_eq_some_iff, ← and_assoc, exists_and_right]

namespace Target

/-- A target in which every value that is there is one to be used. -/
structure Normal (t : Target) : Prop where
  /-- The password is not blank. -/
  password : ∀ p, t.password = some p → ∃ c ∈ p.toList, ¬Text.isBlank c = true
  /-- The database is not negative. -/
  database : ∀ n, t.database = some n → 0 ≤ n
  /-- The client name is not empty, and neither begins nor ends with a blank. -/
  clientName : ∀ name, t.clientName = some name → name ≠ "" ∧
    (∀ c, name.toList.head? = some c → ¬Text.isBlank c = true) ∧
    ∀ c, name.toList.getLast? = some c → ¬Text.isBlank c = true

variable {t : Target} (address : Address) (password : Option String) (options : Options)

theorem build_password_eq_some {p : String} : (build address password options).password = some p ↔
    password = some p ∧ ∃ c ∈ p.toList, ¬Text.isBlank c = true := by
  rw [build, unlessBlank_eq_some, Text.isBlankText_eq_false]

theorem build_database_eq_some {n : Int64} : (build address password options).database = some n ↔
    options.database = some n ∧ 0 ≤ n := by
  simp [build, Option.filter_eq_some_iff]

theorem build_clientName_eq_some {name : String} :
    (build address password options).clientName = some name ↔
      ∃ raw, options.clientName = some raw ∧ Text.trimmed raw = name ∧ name ≠ "" := by
  rw [build, trimmedUnlessBlank_eq_some]

theorem build_normal : (build address password options).Normal where
  password p given := ((build_password_eq_some address password options).1 given).2
  database n given := ((build_database_eq_some address password options).1 given).2
  clientName name given := by
    obtain ⟨raw, -, rfl, nonempty⟩ := (build_clientName_eq_some address password options).1 given
    refine ⟨nonempty, fun c first => ?_, fun c last => ?_⟩
    · rw [Text.trimmed, String.toList_ofList] at first
      exact Text.not_blank_of_head?_trim first
    · rw [Text.trimmed, String.toList_ofList] at last
      exact Text.not_blank_of_getLast?_trim last

/-- Nothing is dropped from a normal target. -/
theorem build_of_normal (normal : t.Normal) : build t.address t.password t.options = t := by
  have password : unlessBlank t.password = t.password := by
    cases given : t.password with
    | none => rfl
    | some p => exact unlessBlank_eq_some.2 ⟨rfl, Text.isBlankText_eq_false.2 (normal.password p given)⟩
  have database : t.database.filter (0 ≤ ·) = t.database := by
    cases given : t.database with
    | none => rfl
    | some n => exact Option.filter_some_pos (by simpa using normal.database n given)
  have clientName : trimmedUnlessBlank t.clientName = t.clientName := by
    cases given : t.clientName with
    | none => rfl
    | some name =>
      obtain ⟨nonempty, front, back⟩ := normal.clientName name given
      have tight : Text.trimmed name = name := by
        rw [Text.trimmed, Text.trim_eq_self front back, String.ofList_toList]
      exact trimmedUnlessBlank_eq_some.2 ⟨name, rfl, tight, nonempty⟩
  simp only [build, options, password, database, clientName]

end Target

namespace Config

/-- The values of a configuration as they are, also where they stand for "not set". -/
def rawOptions (c : Config) : Options :=
  { c.options with database := some c.database, clientName := some c.clientName }

/-- The values of a configuration come to the same target before and after they are normalised. -/
theorem build_rawOptions (config : Config) (address : Address) :
    Target.build address config.usablePassword config.options =
      Target.build address config.password config.rawOptions := by
  have password : unlessBlank config.usablePassword = unlessBlank config.password :=
    unlessBlank_idem config.password
  have database : config.options.database.filter (0 ≤ ·) = (some config.database).filter (0 ≤ ·) := by
    by_cases given : 0 ≤ config.database
    · simp [options, given]
    · simp [options, given, Option.filter_some]
  have clientName : trimmedUnlessBlank config.options.clientName =
      trimmedUnlessBlank (some config.clientName) := by
    simp only [options, trimmedUnlessBlank_idem]
  rw [Target.build, Target.build, password, database, clientName]
  rfl

/-- It makes no difference to a target whether the values of a configuration are normalised before.
The target has usable values only, and is the one that is built from its own values. A password is kept
as it is if it is not blank, a database if it is not negative, and a client name without its blank ends
if something is left of it. -/
theorem normalised_once (config : Config) (address : Address) :
    let target := Target.build address config.usablePassword config.options
    target = Target.build address config.password config.rawOptions ∧
    Target.build address target.password target.options = target ∧
    target.Normal ∧
    (∀ p, target.password = some p ↔
      config.password = some p ∧ ∃ c ∈ p.toList, ¬Text.isBlank c = true) ∧
    (∀ n, target.database = some n ↔ config.database = n ∧ 0 ≤ n) ∧
    ∀ name, target.clientName = some name ↔ Text.trimmed config.clientName = name ∧ name ≠ "" := by
  have normal := Target.build_normal address config.usablePassword config.options
  have raw := config.build_rawOptions address
  refine ⟨raw, Target.build_of_normal normal, normal, fun p => ?_, fun n => ?_, fun name => ?_⟩
  · rw [raw, Target.build_password_eq_some]
  · rw [raw, Target.build_database_eq_some, rawOptions, Option.some.injEq]
  · rw [raw, Target.build_clientName_eq_some]
    simp [rawOptions]

/-- Blanks stay in a password and are dropped around a client name, and a negative database is none. -/
theorem normalised_once_spaced :
    let config : Config :=
      { host := "cache", password := some " key ", database := -2, clientName := "\u2003app " }
    let target := Target.build ⟨"cache", 6379⟩ config.usablePassword config.options
    (target.password = some " key " ∧ target.database = none ∧ target.clientName = some "app") ∧
    target = Target.build ⟨"cache", 6379⟩ config.password config.rawOptions ∧
    Target.build ⟨"cache", 6379⟩ target.password target.options = target ∧
    target.Normal ∧ config.password = some " key " := by
  intro config target
  have given : target.password = some " key " := by decide +kernel
  obtain ⟨raw, again, normal, kept, -⟩ := normalised_once config ⟨"cache", 6379⟩
  exact ⟨by decide +kernel, raw, again, normal, ((kept _).1 given).1⟩

end Config

end RedisClient
