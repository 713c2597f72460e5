import Mathlib.Data.List.Basic

/-!
# Bytes of texts

`WellFormed` is the grammar of UTF-8: a list of bytes is cut into characters of one to four bytes. Which
bytes may come second depends on the first one, so that no character has more bytes than it needs, none
is a surrogate and none lies beyond the last code point. The bytes of a character are exactly what
encodes a character (`CharBytes.exists_char`, `charBytes_encode`), and well-formed bytes exactly what
encodes a text (`wellFormed_iff`).
-/

namespace RedisClient.Text

def Continues (b : UInt8) : Prop := 0x80 ≤ b.toNat ∧ b.toNat ≤ 0xBF

/-- The first byte of three, and the second one. -/
def OpensThree (a b : UInt8) : Prop :=
  a.toNat = 0xE0 ∧ 0xA0 ≤ b.toNat ∨ 0xE1 ≤ a.toNat ∧ a.toNat ≤ 0xEC ∨
    a.toNat = 0xED ∧ b.toNat ≤ 0x9F ∨ 0xEE ≤ a.toNat ∧ a.toNat ≤ 0xEF

/-- The first byte of four, and the second one. -/
def OpensFour (a b : UInt8) : Prop :=
  a.toNat = 0xF0 ∧ 0x90 ≤ b.toNat ∨ 0xF1 ≤ a.toNat ∧ a.toNat ≤ 0xF3 ∨
    a.toNat = 0xF4 ∧ b.toNat ≤ 0x8F

inductive CharBytes : List UInt8 → Prop
  | one {a : UInt8} : a.toNat ≤ 0x7F → CharBytes [a]
  | two {a b : UInt8} : 0xC2 ≤ a.toNat → a.toNat ≤ 0xDF → Continues b → CharBytes [a, b]
  | three {a b c : UInt8} : OpensThree a b → Continues b → Continues c → CharBytes [a, b, c]
  | four {a b c d : UInt8} :
    OpensFour a b → Continues b → Continues c → Continues d → CharBytes [a, b, c, d]

/-- The bytes of characters, one after the other. -/
inductive WellFormed : List UInt8 → Prop
  | nil : WellFormed []
  | cons {char rest : List UInt8} : CharBytes char → WellFormed rest → WellFormed (char ++ rest)

/-! ## Single characters -/

theorem eq_ofNat {b : UInt8} {n : Nat} (eq : n = b.toNat) : UInt8.ofNat n = b := by
  subst eq
  exact UInt8.ofNat_toNat

/-- There is a character for every code point that is no surrogate. -/
theorem exists_char {n : Nat} (valid : n < 0xD800 ∨ 0xDFFF < n ∧ n < 0x110000) :
    ∃ c : Char, c.val.toNat = n :=
  ⟨Char.ofNatAux n valid, rfl⟩

theorem CharBytes.exists_char {bytes : List UInt8} (h : CharBytes bytes) :
    ∃ c, String.utf8EncodeChar c = bytes := by
  cases h with
  | @one a low =>
    obtain ⟨c, point⟩ := Text.exists_char (n := a.toNat) (by omega)
    refine ⟨c, ?_⟩
    rw [String.utf8EncodeChar, point, if_pos low, eq_ofNat rfl]
  | @two a b least most second =>
    obtain ⟨lower, upper⟩ := second
    obtain ⟨c, point⟩ :=
      Text.exists_char (n := (a.toNat - 0xC0) * 64 + (b.toNat - 0x80)) (by omega)
    refine ⟨c, ?_⟩
    rw [String.utf8EncodeChar, point, if_neg (by omega), if_pos (by omega),
      eq_ofNat (b := a) (by omega), eq_ofNat (b := b) (by omega)]
  | @three a b c opens second third =>
    obtain ⟨lower, upper⟩ := second
    obtain ⟨lower', upper'⟩ := third
    unfold OpensThree at opens
    obtain ⟨char, point⟩ := Text.exists_char
      (n := (a.toNat - 0xE0) * 4096 + (b.toNat - 0x80) * 64 + (c.toNat - 0x80)) (by omega)
    refine ⟨char, ?_⟩
    rw [String.utf8EncodeChar, point, if_neg (by omega), if_neg (by omega), if_pos (by omega),
      eq_ofNat (b := a) (by omega), eq_ofNat (b := b) (by omega), eq_ofNat (b := c) (by omega)]
  | @four a b c d opens second third fourth =>
    obtain ⟨lower, upper⟩ := second
    obtain ⟨lower', upper'⟩ := third
    obtain ⟨lower'', upper''⟩ := fourth
    unfold OpensFour at opens
    obtain ⟨char, point⟩ := Text.exists_char (n := (a.toNat - 0xF0) * 262144 +
      (b.toNat - 0x80) * 4096 + (c.toNat - 0x80) * 64 + (d.toNat - 0x80)) (by omega)
    refine ⟨char, ?_⟩
    rw [String.utf8EncodeChar, point, if_neg (by omega), if_neg (by omega), if_neg (by omega),
      eq_ofNat (b := a) (by omega), eq_ofNat (b := b) (by omega), eq_ofNat (b := c) (by omega),
      eq_ofNat (b := d) (by omega)]

theorem continues_ofNat {n : Nat} (lower : 0x80 ≤ n) (upper : n ≤ 0xBF) :
    Continues (UInt8.ofNat n) := by
  unfold Continues
  rw [UInt8.toNat_ofNat']
  omega

theorem charBytes_encode (c : Char) : CharBytes (String.utf8EncodeChar c) := by
  have valid : c.val.toNat < 0xD800 ∨ 0xDFFF < c.val.toNat ∧ c.val.toNat < 0x110000 := c.valid
  generalize point : c.val.toNat = n at valid
  rw [String.utf8EncodeChar, point]
  split
  · refine .one ?_
    rw [UInt8.toNat_ofNat']
    omega
  · split
    · refine .two ?_ ?_ (continues_ofNat (by omega) (by omega)) <;>
      · rw [UInt8.toNat_ofNat']
        omega
    · split
      · refine .three ?_ (continues_ofNat (by omega) (by omega))
          (continues_ofNat (by omega) (by omega))
        unfold OpensThree
        rw [UInt8.toNat_ofNat', UInt8.toNat_ofNat']
        omega
      · refine .four ?_ (continues_ofNat (by omega) (by omega))
          (continues_ofNat (by omega) (by omega)) (continues_ofNat (by omega) (by omega))
        unfold OpensFour
        rw [UInt8.toNat_ofNat', UInt8.toNat_ofNat']
        omega

/-! ## Texts -/

theorem wellFormed_encode (cs : List Char) : WellFormed (cs.flatMap String.utf8EncodeChar) := by
  induction cs with
  | nil => exact .nil
  | cons c cs ih => exact .cons (charBytes_encode c) ih

theorem WellFormed.exists_chars {bytes : List UInt8} (h : WellFormed bytes) :
    ∃ cs : List Char, cs.flatMap String.utf8EncodeChar = bytes := by
  induction h with
  | nil => exact ⟨[], rfl⟩
  | cons char _ ih =>
    obtain ⟨c, rfl⟩ := char.exists_char
    obtain ⟨cs, rfl⟩ := ih
    exact ⟨c :: cs, rfl⟩

/-- Well-formed bytes are those that encode a text. -/
theorem wellFormed_iff {bytes : ByteArray} :
    WellFormed bytes.data.toList ↔ ∃ s : String, s.toByteArray = bytes := by
  constructor
  · intro h
    obtain ⟨cs, eq⟩ := h.exists_chars
    refine ⟨String.ofList cs, ?_⟩
    rw [← String.utf8Encode_toList, String.toList_ofList, List.utf8Encode, eq, ByteArray.ext_iff,
      List.data_toByteArray]
  · rintro ⟨s, rfl⟩
    rw [← String.utf8Encode_toList, List.utf8Encode, List.data_toByteArray]
    exact wellFormed_encode s.toList

end RedisClient.Text
