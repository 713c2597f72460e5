import RedisClient.Proofs.Connector.Connected

/-!
# Configured timeouts

A configuration holds its timeout as a number of milliseconds, so that a duration loses its part
below a millisecond, and one that is too long becomes the longest that there is
(`readLimit_withConnectionTimeout`). What is left is the limit of a target, unless it is nothing:
`timeout_kept` says for which durations this makes little difference, and that it makes all the
difference below a millisecond.
-/

namespace RedisClient

theorem Duration.eq_of_nanos {a b : Duration} (same : a.nanos = b.nanos) : a = b := by
  cases a
  cases b
  simpa using same

namespace Config

variable {d : Duration}

def longestTimeout : Duration := .ofMillis Int64.maxValue.toUInt64

theorem longestTimeout_nanos : longestTimeout.nanos = (2 ^ 63 - 1) * 10 ^ 6 := by decide

/-- The milliseconds of a duration, as a configuration holds them. -/
def heldMillis (d : Duration) : Nat := min d.millis (2 ^ 63 - 1)

theorem heldMillis_of_lt (short : d.millis < 2 ^ 63) : heldMillis d = d.millis :=
  Nat.min_eq_left (by omega)

theorem heldMillis_of_le (long : 2 ^ 63 ≤ d.millis) : heldMillis d = 2 ^ 63 - 1 :=
  Nat.min_eq_right (by omega)

theorem connectionTimeout_eq (config : Config) (d : Duration) :
    (config.withConnectionTimeout d).connectionTimeout = Int64.ofNat (heldMillis d) := by
  by_cases short : d.millis < 2 ^ 63
  · rw [withConnectionTimeout, if_pos short, heldMillis_of_lt short]
  · rw [withConnectionTimeout, if_neg short, heldMillis_of_le (by omega)]
    rfl

/-- Of a timeout its whole milliseconds are left, and nothing is left if there are none. -/
theorem readLimit_withConnectionTimeout (config : Config) (d : Duration) :
    (heldMillis d = 0 → (config.withConnectionTimeout d).readLimit = none) ∧
    (0 < heldMillis d → ∃ t, (config.withConnectionTimeout d).readLimit = some t ∧
      t.nanos = heldMillis d * 10 ^ 6) := by
  have range : heldMillis d < 2 ^ 63 :=
    Nat.lt_of_le_of_lt (Nat.min_le_right ..) (by decide)
  have value : (Int64.ofNat (heldMillis d)).toInt = heldMillis d := Int64.toInt_ofNat_of_lt range
  have positive : 0 < Int64.ofNat (heldMillis d) ↔ 0 < heldMillis d := by
    rw [Int64.lt_iff_toInt_lt, value, Int64.toInt_zero]
    omega
  rw [readLimit, connectionTimeout_eq]
  constructor
  · intro none
    rw [if_neg (by rw [positive]; omega)]
  · intro some
    refine ⟨_, if_pos (positive.2 some), ?_⟩
    have millis : (Int64.ofNat (heldMillis d)).toUInt64.toNat = heldMillis d := by
      rw [Int64.toUInt64_ofNat', UInt64.toNat_ofNat_of_lt' (Nat.lt_trans range (by decide))]
    simp only [Duration.ofMillis, millis]

/-- A timeout of a millisecond or more is the limit of every target, less than a millisecond short
of what was asked for, or the longest one if that was too long. A shorter timeout is lost: the
target has no limit at all, as if no time had been given. -/
theorem timeout_kept (config : Config) (d : Duration) (address : Address)
    (password : Option String) :
    let limit :=
      (Target.build address password (config.withConnectionTimeout d).options).effectiveTimeout
    (10 ^ 6 ≤ d.nanos → ∃ t, limit = some t ∧ 0 < t.nanos ∧ t.nanos ≤ d.nanos ∧
      (d.nanos ≤ longestTimeout.nanos → d.nanos < t.nanos + 10 ^ 6) ∧
      (longestTimeout.nanos < d.nanos → t = longestTimeout)) ∧
    (d.nanos < 10 ^ 6 → limit = none) := by
  intro limit
  have same : limit = (config.withConnectionTimeout d).readLimit :=
    effectiveTimeout_build (config.withConnectionTimeout d) address password
  have millis : d.millis = d.nanos / 10 ^ 6 := rfl
  obtain ⟨lost, kept⟩ := readLimit_withConnectionTimeout config d
  rw [same, longestTimeout_nanos]
  by_cases short : d.millis < 2 ^ 63
  · -- No more is lost than the division loses.
    rw [heldMillis_of_lt short] at lost kept
    constructor
    · intro _
      obtain ⟨t, eq, nanos⟩ := kept (by omega)
      refine ⟨t, eq, by omega, by omega, fun _ => by omega, fun overlong => ?_⟩
      have most : d.millis = 2 ^ 63 - 1 := by omega
      apply Duration.eq_of_nanos
      rw [nanos, most, longestTimeout_nanos]
    · intro _
      exact lost (by omega)
  · rw [heldMillis_of_le (by omega)] at kept
    constructor
    · intro _
      obtain ⟨t, eq, nanos⟩ := kept (by omega)
      have longest : t = longestTimeout :=
        Duration.eq_of_nanos (nanos.trans longestTimeout_nanos.symm)
      exact ⟨t, eq, by omega, by omega, fun _ => by omega, fun _ => longest⟩
    · intro _
      omega

theorem timeout_kept_fraction :
    let d : Duration := ⟨1500000, by decide⟩
    let limit := (Target.build ⟨"cache", 6379⟩ none
      (({ host := "cache" } : Config).withConnectionTimeout d).options).effectiveTimeout
    10 ^ 6 ≤ d.nanos ∧ ∃ t, limit = some t ∧ 0 < t.nanos ∧ t.nanos ≤ d.nanos ∧
      (d.nanos ≤ longestTimeout.nanos → d.nanos < t.nanos + 10 ^ 6) ∧
      (longestTimeout.nanos < d.nanos → t = longestTimeout) :=
  ⟨by decide, (timeout_kept { host := "cache" } ⟨1500000, by decide⟩ ⟨"cache", 6379⟩ none).1
    (by decide)⟩

/-- A nanosecond is some time, but as a timeout it lifts every limit. -/
theorem nanosecond_lifts_limit :
    let d : Duration := ⟨1, by decide⟩
    0 < d.nanos ∧
      (Target.build ⟨"cache", 6379⟩ none
        (({ host := "cache" } : Config).withConnectionTimeout d).options).effectiveTimeout =
        none := by
  decide +kernel

end Config

end RedisClient
