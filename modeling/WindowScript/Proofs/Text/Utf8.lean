/-
# Decoding bytes

Decoding reads one character after the other, and what it reads at one place does not
depend on what it has read before. A character other than the replacement character is
read exactly where its encoding stands; `Encoding` says what that is without a table of
lead bytes. Everything else is replaced: overlong forms, surrogates, code points beyond
the last one, stray bytes and characters that are cut off.

ASCII bytes belong to no longer encoding. So an ASCII byte ends whatever is open before
it, complete or not, and the bytes on both sides of it are decoded as if they stood
alone.
-/

import Mathlib.Data.List.Basic
import WindowScript.Text.Utf8

namespace WindowScript.Text.Utf8

/-- Bytes in the order in which they are decoded. -/
theorem decode_induction {motive : List UInt8 → Prop} (nil : motive [])
    (cons : ∀ b rest, motive (next b rest).2 → motive (b :: rest)) (bytes : List UInt8) :
    motive bytes := by
  induction hlength : bytes.length using Nat.strongRecOn generalizing bytes with
  | ind length ih =>
      cases bytes with
      | nil => exact nil
      | cons b rest =>
          have hlt : (next b rest).2.length < length := by
            rw [← hlength]
            exact Nat.lt_succ_of_le (length_next_le b rest)
          exact cons b rest (ih _ hlt _ rfl)

/-! ## Encodings -/

/-- A byte that continues a character. -/
def IsTail (b : UInt8) : Prop := 0x80 ≤ b.toNat ∧ b.toNat ≤ 0xBF

/-- Bytes that stand for a code point: a lead byte that tells their number, and the
bits of the code point in shares of six. There are no more bytes than the code point
needs, and it is one that characters have. -/
inductive Encoding : List UInt8 → Nat → Prop
  | one {b : UInt8} (hlead : b.toNat < 0x80) : Encoding [b] b.toNat
  | two {b b₁ : UInt8} {n : Nat} (hlead : 0xC0 ≤ b.toNat ∧ b.toNat < 0xE0) (h₁ : IsTail b₁)
      (hvalue : n = (b.toNat - 0xC0) * 0x40 + (b₁.toNat - 0x80)) (hleast : 0x80 ≤ n) :
      Encoding [b, b₁] n
  | three {b b₁ b₂ : UInt8} {n : Nat} (hlead : 0xE0 ≤ b.toNat ∧ b.toNat < 0xF0)
      (h₁ : IsTail b₁) (h₂ : IsTail b₂)
      (hvalue : n = ((b.toNat - 0xE0) * 0x40 + (b₁.toNat - 0x80)) * 0x40 + (b₂.toNat - 0x80))
      (hleast : 0x800 ≤ n) (hvalid : n.isValidChar) : Encoding [b, b₁, b₂] n
  | four {b b₁ b₂ b₃ : UInt8} {n : Nat} (hlead : 0xF0 ≤ b.toNat ∧ b.toNat < 0xF8)
      (h₁ : IsTail b₁) (h₂ : IsTail b₂) (h₃ : IsTail b₃)
      (hvalue : n = (((b.toNat - 0xF0) * 0x40 + (b₁.toNat - 0x80)) * 0x40 +
        (b₂.toNat - 0x80)) * 0x40 + (b₃.toNat - 0x80))
      (hleast : 0x10000 ≤ n) (hvalid : n.isValidChar) : Encoding [b, b₁, b₂, b₃] n

theorem toNat_ofNat {n : Nat} (hn : n.isValidChar) : (Char.ofNat n).toNat = n := by
  rw [Char.ofNat, dif_pos hn]
  rfl

theorem Encoding.isValidChar {bytes : List UInt8} {n : Nat} (hbytes : Encoding bytes n) :
    n.isValidChar := by
  cases hbytes with
  | one hlead => exact Or.inl (by omega)
  | two hlead h₁ hvalue hleast =>
      unfold IsTail at h₁
      exact Or.inl (by omega)
  | three _ _ _ _ _ hvalid => exact hvalid
  | four _ _ _ _ _ _ hvalid => exact hvalid

theorem ofNat_eq_of_toNat_eq {b : UInt8} {n : Nat} (hn : b.toNat = n) : UInt8.ofNat n = b := by
  rw [← hn, UInt8.ofNat_toNat]

/-- The bytes of a code point are those of its character. -/
theorem Encoding.utf8EncodeChar_eq {bytes : List UInt8} {n : Nat} (hbytes : Encoding bytes n) :
    String.utf8EncodeChar (Char.ofNat n) = bytes := by
  have hvalue : (Char.ofNat n).val.toNat = n := toNat_ofNat hbytes.isValidChar
  rw [String.utf8EncodeChar, hvalue]
  cases hbytes with
  | one hlead => rw [if_pos (by omega), UInt8.ofNat_toNat]
  | @two b b₁ _ hlead h₁ hn hleast =>
      unfold IsTail at h₁
      have hb : UInt8.ofNat (n / 64 % 32 + 192) = b := ofNat_eq_of_toNat_eq (by omega)
      have hb₁ : UInt8.ofNat (n % 64 + 128) = b₁ := ofNat_eq_of_toNat_eq (by omega)
      rw [if_neg (by omega), if_pos (by omega), hb, hb₁]
  | @three b b₁ b₂ _ hlead h₁ h₂ hn hleast hvalid =>
      unfold IsTail at h₁ h₂
      have hb : UInt8.ofNat (n / 4096 % 16 + 224) = b := ofNat_eq_of_toNat_eq (by omega)
      have hb₁ : UInt8.ofNat (n / 64 % 64 + 128) = b₁ := ofNat_eq_of_toNat_eq (by omega)
      have hb₂ : UInt8.ofNat (n % 64 + 128) = b₂ := ofNat_eq_of_toNat_eq (by omega)
      rw [if_neg (by omega), if_neg (by omega), if_pos (by omega), hb, hb₁, hb₂]
  | @four b b₁ b₂ b₃ _ hlead h₁ h₂ h₃ hn hleast hvalid =>
      unfold IsTail at h₁ h₂ h₃
      have hb : UInt8.ofNat (n / 262144 % 8 + 240) = b := ofNat_eq_of_toNat_eq (by omega)
      have hb₁ : UInt8.ofNat (n / 4096 % 64 + 128) = b₁ := ofNat_eq_of_toNat_eq (by omega)
      have hb₂ : UInt8.ofNat (n / 64 % 64 + 128) = b₂ := ofNat_eq_of_toNat_eq (by omega)
      have hb₃ : UInt8.ofNat (n % 64 + 128) = b₃ := ofNat_eq_of_toNat_eq (by omega)
      rw [if_neg (by omega), if_neg (by omega), if_neg (by omega), hb, hb₁, hb₂, hb₃]

theorem toNat_ofNat_of_lt {n : Nat} (hn : n < 256) : (UInt8.ofNat n).toNat = n := by
  rw [UInt8.toNat_ofNat']
  exact Nat.mod_eq_of_lt hn

/-- A share of six bits as a byte. -/
theorem toNat_tail (n : Nat) : (UInt8.ofNat (n % 64 + 128)).toNat = n % 64 + 128 :=
  toNat_ofNat_of_lt (by omega)

theorem isTail_tail (n : Nat) : IsTail (UInt8.ofNat (n % 64 + 128)) := by
  unfold IsTail
  rw [toNat_tail]
  omega

/-- Characters are written in encodings of their code points. -/
theorem encoding_utf8EncodeChar (c : Char) : Encoding (String.utf8EncodeChar c) c.toNat := by
  have hvalid : c.toNat.isValidChar := c.valid
  have hval : c.val.toNat = c.toNat := rfl
  rw [String.utf8EncodeChar, hval]
  generalize c.toNat = n at hvalid
  have hbound : n < 0x110000 := by
    unfold Nat.isValidChar at hvalid
    omega
  split
  next hone =>
      have hb := toNat_ofNat_of_lt (n := n) (by omega)
      have hencoding : Encoding [UInt8.ofNat n] (UInt8.ofNat n).toNat := .one (by omega)
      rwa [hb] at hencoding
  next hone =>
      split
      next htwo =>
          have hb : (UInt8.ofNat (n / 64 % 32 + 192)).toNat = n / 64 % 32 + 192 :=
            toNat_ofNat_of_lt (by omega)
          refine .two (by omega) (isTail_tail n) ?_ (by omega)
          rw [hb, toNat_tail]
          omega
      next htwo =>
          split
          next hthree =>
              have hb : (UInt8.ofNat (n / 4096 % 16 + 224)).toNat = n / 4096 % 16 + 224 :=
                toNat_ofNat_of_lt (by omega)
              refine .three (by omega) (isTail_tail (n / 64)) (isTail_tail n) ?_ (by omega) hvalid
              rw [hb, toNat_tail, toNat_tail]
              omega
          next hthree =>
              have hb : (UInt8.ofNat (n / 262144 % 8 + 240)).toNat = n / 262144 % 8 + 240 :=
                toNat_ofNat_of_lt (by omega)
              refine .four (by omega) (isTail_tail (n / 4096)) (isTail_tail (n / 64))
                (isTail_tail n) ?_ (by omega) hvalid
              rw [hb, toNat_tail, toNat_tail, toNat_tail]
              omega

/-! ## Lead bytes -/

theorem next_ascii {b : UInt8} (hb : b < 0x80) (rest : List UInt8) :
    next b rest = (Char.ofNat b.toNat, rest) :=
  if_pos hb

section

variable {b : UInt8}

theorem next_of_lead? {lead : Lead} (hb : 0x80 ≤ b.toNat) (hlead : lead? b = some lead)
    (rest : List UInt8) :
    next b rest = follow lead.more lead.least lead.greatest lead.bits rest := by
  have hascii : ¬ b < 0x80 := Nat.not_lt.mpr hb
  rw [next, if_neg hascii, hlead]

theorem next_stray (hb : 0x80 ≤ b.toNat) (hstray : b.toNat < 0xC2 ∨ 0xF5 ≤ b.toNat)
    (rest : List UInt8) : next b rest = (replacement, rest) := by
  have hascii : ¬ b < 0x80 := Nat.not_lt.mpr hb
  have hlead : lead? b = none := by
    simp only [lead?, UInt8.lt_iff_toNat_lt, UInt8.reduceToNat]
    split
    · rfl
    · rw [if_neg (by omega), if_neg (by omega), if_neg (by omega)]
  rw [next, if_neg hascii, hlead]

theorem next_two (hb : 0xC2 ≤ b.toNat ∧ b.toNat < 0xE0) (rest : List UInt8) :
    next b rest = follow 1 0x80 0xBF (b.toNat - 0xC0) rest := by
  have hlead : lead? b = some ⟨b.toNat - 0xC0, 1, 0x80, 0xBF⟩ := by
    simp only [lead?, UInt8.lt_iff_toNat_lt, UInt8.reduceToNat]
    rw [if_neg (by omega), if_pos (by omega)]
  rw [next_of_lead? (by omega) hlead]

theorem next_three (hb : 0xE0 ≤ b.toNat ∧ b.toNat < 0xF0) (rest : List UInt8) :
    next b rest = follow 2 (if b = 0xE0 then 0xA0 else 0x80) (if b = 0xED then 0x9F else 0xBF)
      (b.toNat - 0xE0) rest := by
  have hlead : lead? b = some ⟨b.toNat - 0xE0, 2, if b = 0xE0 then 0xA0 else 0x80,
      if b = 0xED then 0x9F else 0xBF⟩ := by
    simp only [lead?, UInt8.lt_iff_toNat_lt, UInt8.reduceToNat]
    rw [if_neg (by omega), if_neg (by omega), if_pos (by omega)]
  rw [next_of_lead? (by omega) hlead]

theorem next_four (hb : 0xF0 ≤ b.toNat ∧ b.toNat < 0xF5) (rest : List UInt8) :
    next b rest = follow 3 (if b = 0xF0 then 0x90 else 0x80) (if b = 0xF4 then 0x8F else 0xBF)
      (b.toNat - 0xF0) rest := by
  have hlead : lead? b = some ⟨b.toNat - 0xF0, 3, if b = 0xF0 then 0x90 else 0x80,
      if b = 0xF4 then 0x8F else 0xBF⟩ := by
    simp only [lead?, UInt8.lt_iff_toNat_lt, UInt8.reduceToNat]
    rw [if_neg (by omega), if_neg (by omega), if_neg (by omega), if_pos (by omega)]
  rw [next_of_lead? (by omega) hlead]

end

/-- The range of the byte behind a lead byte, with an exception at one lead byte below
and at another above. -/
theorem fits_iff (b x low least high greatest : UInt8) (hleast : 0x80 ≤ least.toNat)
    (hgreatest : greatest.toNat ≤ 0xBF) :
    ((if b = low then least else 0x80) ≤ x ∧ x ≤ if b = high then greatest else 0xBF) ↔
      IsTail x ∧ (b.toNat = low.toNat → least.toNat ≤ x.toNat) ∧
        (b.toNat = high.toNat → x.toNat ≤ greatest.toNat) := by
  have hlimits : (0x80 : UInt8).toNat = 0x80 ∧ (0xBF : UInt8).toNat = 0xBF := ⟨rfl, rfl⟩
  unfold IsTail
  simp only [UInt8.le_iff_toNat_le, ← UInt8.toNat_inj]
  split <;> split <;> omega

/-- Neither an overlong form nor a surrogate. -/
theorem fits_three_iff (b x : UInt8) :
    ((if b = 0xE0 then 0xA0 else 0x80) ≤ x ∧ x ≤ if b = 0xED then 0x9F else 0xBF) ↔
      IsTail x ∧ (b.toNat = 0xE0 → 0xA0 ≤ x.toNat) ∧ (b.toNat = 0xED → x.toNat ≤ 0x9F) :=
  fits_iff b x 0xE0 0xA0 0xED 0x9F (by decide) (by decide)

/-- Neither an overlong form nor a code point beyond the last one. -/
theorem fits_four_iff (b x : UInt8) :
    ((if b = 0xF0 then 0x90 else 0x80) ≤ x ∧ x ≤ if b = 0xF4 then 0x8F else 0xBF) ↔
      IsTail x ∧ (b.toNat = 0xF0 → 0x90 ≤ x.toNat) ∧ (b.toNat = 0xF4 → x.toNat ≤ 0x8F) :=
  fits_iff b x 0xF0 0x90 0xF4 0x8F (by decide) (by decide)

/-! ## One character -/

theorem follow_zero (least greatest : UInt8) (value : Nat) (rest : List UInt8) :
    follow 0 least greatest value rest = (Char.ofNat value, rest) :=
  rfl

theorem follow_tail {x : UInt8} (hx : IsTail x) (more value : Nat) (rest : List UInt8) :
    follow (more + 1) 0x80 0xBF value (x :: rest) =
      follow more 0x80 0xBF (value * 0x40 + (x.toNat - 0x80)) rest :=
  if_pos hx

/-- One more byte fits, or the character is replaced. -/
theorem follow_succ_cases (more : Nat) (least greatest : UInt8) (value : Nat)
    (bytes : List UInt8) :
    (follow (more + 1) least greatest value bytes).1 = replacement ∨
      ∃ x rest, bytes = x :: rest ∧ (least ≤ x ∧ x ≤ greatest) ∧
        follow (more + 1) least greatest value bytes =
          follow more 0x80 0xBF (value * 0x40 + (x.toNat - 0x80)) rest := by
  cases bytes with
  | nil => exact Or.inl rfl
  | cons x rest =>
      rw [follow]
      split
      next hfits => exact Or.inr ⟨x, rest, rfl, hfits, rfl⟩
      next => exact Or.inl rfl

/-- An encoding is read as its character. -/
theorem Encoding.next_append {b : UInt8} {bytes : List UInt8} {n : Nat}
    (hbytes : Encoding (b :: bytes) n) (rest : List UInt8) :
    next b (bytes ++ rest) = (Char.ofNat n, rest) := by
  cases hbytes with
  | one hlead => exact next_ascii hlead rest
  | two hlead h₁ hn hleast =>
      rw [next_two (by unfold IsTail at h₁; omega), hn]
      exact follow_tail h₁ 0 _ rest
  | @three _ b₁ b₂ _ hlead h₁ h₂ hn hleast hvalid =>
      have hfits : IsTail b₁ ∧ (b.toNat = 0xE0 → 0xA0 ≤ b₁.toNat) ∧
          (b.toNat = 0xED → b₁.toNat ≤ 0x9F) := by
        unfold IsTail Nat.isValidChar at *
        omega
      rw [next_three hlead, hn]
      exact (if_pos ((fits_three_iff b b₁).mpr hfits)).trans (follow_tail h₂ 0 _ rest)
  | @four _ b₁ b₂ b₃ _ hlead h₁ h₂ h₃ hn hleast hvalid =>
      have hfits : b.toNat < 0xF5 ∧ IsTail b₁ ∧ (b.toNat = 0xF0 → 0x90 ≤ b₁.toNat) ∧
          (b.toNat = 0xF4 → b₁.toNat ≤ 0x8F) := by
        unfold IsTail Nat.isValidChar at *
        omega
      rw [next_four ⟨hlead.1, hfits.1⟩, hn]
      exact (if_pos ((fits_four_iff b b₁).mpr hfits.2)).trans
        ((follow_tail h₂ 1 _ _).trans (follow_tail h₃ 0 _ rest))

/-- What may be read at the front of bytes, and left: the character of an encoding that
stands there, or a replacement. -/
def Reads (b : UInt8) (rest : List UInt8) (read : Char × List UInt8) : Prop :=
  read.1 = replacement ∨
    ∃ bytes n, Encoding (b :: bytes) n ∧ rest = bytes ++ read.2 ∧ read.1 = Char.ofNat n

section

variable {b : UInt8} (rest : List UInt8)

theorem reads_two (hb : 0xC2 ≤ b.toNat ∧ b.toNat < 0xE0) : Reads b rest (next b rest) := by
  rw [next_two hb]
  rcases follow_succ_cases 0 0x80 0xBF (b.toNat - 0xC0) rest with hnone | ⟨b₁, rest, rfl, h₁, h⟩
  · exact Or.inl hnone
  rw [h, follow_zero]
  -- The sum is given a name, for it must not be computed.
  generalize hn : (b.toNat - 0xC0) * 0x40 + (b₁.toNat - 0x80) = n
  exact Or.inr ⟨[b₁], n, .two ⟨by omega, hb.2⟩ h₁ hn.symm (by omega), rfl, rfl⟩

theorem reads_three (hb : 0xE0 ≤ b.toNat ∧ b.toNat < 0xF0) : Reads b rest (next b rest) := by
  rw [next_three hb]
  rcases follow_succ_cases 1 (if b = 0xE0 then 0xA0 else 0x80) (if b = 0xED then 0x9F else 0xBF)
    (b.toNat - 0xE0) rest with hnone | ⟨b₁, rest, rfl, h₁, h⟩
  · exact Or.inl hnone
  rw [fits_three_iff] at h₁
  rw [h]
  rcases follow_succ_cases 0 0x80 0xBF _ rest with hnone | ⟨b₂, rest, rfl, h₂, h⟩
  · exact Or.inl hnone
  rw [h, follow_zero]
  generalize hn : ((b.toNat - 0xE0) * 0x40 + (b₁.toNat - 0x80)) * 0x40 + (b₂.toNat - 0x80) = n
  have hbounds : 0x800 ≤ n ∧ n.isValidChar := by
    have htail : IsTail b₂ := h₂
    unfold IsTail at h₁ htail
    unfold Nat.isValidChar
    omega
  exact Or.inr ⟨[b₁, b₂], n, .three hb h₁.1 h₂ hn.symm hbounds.1 hbounds.2, rfl, rfl⟩

theorem reads_four (hb : 0xF0 ≤ b.toNat ∧ b.toNat < 0xF5) : Reads b rest (next b rest) := by
  rw [next_four hb]
  rcases follow_succ_cases 2 (if b = 0xF0 then 0x90 else 0x80) (if b = 0xF4 then 0x8F else 0xBF)
    (b.toNat - 0xF0) rest with hnone | ⟨b₁, rest, rfl, h₁, h⟩
  · exact Or.inl hnone
  rw [fits_four_iff] at h₁
  rw [h]
  rcases follow_succ_cases 1 0x80 0xBF _ rest with hnone | ⟨b₂, rest, rfl, h₂, h⟩
  · exact Or.inl hnone
  rw [h]
  rcases follow_succ_cases 0 0x80 0xBF _ rest with hnone | ⟨b₃, rest, rfl, h₃, h⟩
  · exact Or.inl hnone
  rw [h, follow_zero]
  generalize hn : (((b.toNat - 0xF0) * 0x40 + (b₁.toNat - 0x80)) * 0x40 +
    (b₂.toNat - 0x80)) * 0x40 + (b₃.toNat - 0x80) = n
  have hbounds : 0x10000 ≤ n ∧ n.isValidChar := by
    have htails : IsTail b₂ ∧ IsTail b₃ := ⟨h₂, h₃⟩
    unfold IsTail at h₁ htails
    unfold Nat.isValidChar
    omega
  exact Or.inr ⟨[b₁, b₂, b₃], n, .four ⟨hb.1, by omega⟩ h₁.1 h₂ h₃ hn.symm hbounds.1 hbounds.2,
    rfl, rfl⟩

variable (b)

theorem reads_next : Reads b rest (next b rest) := by
  rcases Nat.lt_or_ge b.toNat 0x80 with hascii | hascii
  · rw [next_ascii hascii]
    exact Or.inr ⟨[], b.toNat, .one hascii, rfl, rfl⟩
  rcases Nat.lt_or_ge b.toNat 0xC2 with hstray | htwo
  · rw [next_stray hascii (Or.inl hstray)]
    exact Or.inl rfl
  rcases Nat.lt_or_ge b.toNat 0xE0 with hlt | hthree
  · exact reads_two rest ⟨htwo, hlt⟩
  rcases Nat.lt_or_ge b.toNat 0xF0 with hlt | hfour
  · exact reads_three rest ⟨hthree, hlt⟩
  rcases Nat.lt_or_ge b.toNat 0xF5 with hlt | hstray
  · exact reads_four rest ⟨hfour, hlt⟩
  · rw [next_stray hascii (Or.inr hstray)]
    exact Or.inl rfl

end

/-- A character that is no replacement is read from its own bytes. -/
theorem eq_encode_of_next {b : UInt8} {rest : List UInt8}
    (hnext : (next b rest).1 ≠ replacement) :
    b :: rest = String.utf8EncodeChar (next b rest).1 ++ (next b rest).2 := by
  rcases reads_next b rest with hnone | ⟨bytes, n, hbytes, hrest, hchar⟩
  · exact absurd hnone hnext
  · rw [hchar, hbytes.utf8EncodeChar_eq, List.cons_append, ← hrest]

/-! ## Whole texts -/

theorem decode_utf8EncodeChar_append (c : Char) (rest : List UInt8) :
    decode (String.utf8EncodeChar c ++ rest) = c :: decode rest := by
  have hencoding := encoding_utf8EncodeChar c
  generalize String.utf8EncodeChar c = bytes at hencoding
  cases bytes with
  | nil => cases hencoding
  | cons b bytes =>
      rw [List.cons_append, decode_cons, hencoding.next_append, Char.ofNat_toNat]

/-- What is encoded is read back, whatever follows it. -/
theorem decode_encode_append (cs : List Char) (rest : List UInt8) :
    decode (encode cs ++ rest) = cs ++ decode rest := by
  induction cs with
  | nil => rfl
  | cons c cs ih =>
      rw [encode, List.flatMap_cons, List.append_assoc, decode_utf8EncodeChar_append,
        List.cons_append]
      exact congrArg (c :: ·) ih

/-- The bytes of a text are its standard encoding. -/
theorem encode_toList (text : String) : encode text.toList = text.toUTF8.data.toList := by
  rw [String.toUTF8, ← String.utf8Encode_toList, List.utf8Encode, List.data_toByteArray]
  rfl

theorem decode_toUTF8 (text : String) : decode text.toUTF8.data.toList = text.toList := by
  have hdecode := decode_encode_append text.toList []
  rwa [List.append_nil, decode_nil, List.append_nil, encode_toList] at hdecode

/-- A text without replacement characters stands at the front of what is decoded exactly
if its bytes stand at the front of the bytes. -/
theorem prefix_decode_iff {cs : List Char} (hcs : replacement ∉ cs) {bytes : List UInt8} :
    cs <+: decode bytes ↔ encode cs <+: bytes := by
  constructor
  · intro hprefix
    induction cs generalizing bytes with
    | nil => exact List.nil_prefix
    | cons c cs ih =>
        rw [List.mem_cons, not_or] at hcs
        cases bytes with
        | nil => simp at hprefix
        | cons b rest =>
            rw [decode_cons, List.cons_prefix_cons] at hprefix
            obtain ⟨rfl, hprefix⟩ := hprefix
            rw [eq_encode_of_next (Ne.symm hcs.1), encode, List.flatMap_cons,
              List.prefix_append_right_inj]
            exact ih hcs.2 hprefix
  · rintro ⟨rest, rfl⟩
    exact ⟨decode rest, (decode_encode_append cs rest).symm⟩

theorem follow_suffix (more : Nat) (least greatest : UInt8) (value : Nat)
    (bytes : List UInt8) : (follow more least greatest value bytes).2 <:+ bytes := by
  induction more generalizing least greatest value bytes with
  | zero => exact List.suffix_rfl
  | succ more ih =>
      cases bytes with
      | nil => exact List.suffix_rfl
      | cons x rest =>
          rw [follow]
          split
          · exact (ih _ _ _ _).trans (List.suffix_cons x rest)
          · exact List.suffix_rfl

theorem next_suffix (b : UInt8) (rest : List UInt8) : (next b rest).2 <:+ rest := by
  unfold next
  split
  · exact List.suffix_rfl
  · split
    · exact List.suffix_rfl
    · exact follow_suffix _ _ _ _ _

/-- ASCII characters come from ASCII bytes only. -/
theorem mem_of_mem_decode {c : Char} (hc : c.toNat < 0x80) {bytes : List UInt8}
    (hmem : c ∈ decode bytes) : UInt8.ofNat c.toNat ∈ bytes := by
  have hne : c ≠ replacement := by
    rintro rfl
    exact absurd hc (by decide)
  have hencode : String.utf8EncodeChar c = [UInt8.ofNat c.toNat] :=
    if_pos (Nat.le_of_lt_succ hc)
  induction bytes using decode_induction with
  | nil => simp at hmem
  | cons b rest ih =>
      rw [decode_cons, List.mem_cons] at hmem
      rcases hmem with rfl | hmem
      · rw [eq_encode_of_next hne, hencode]
        exact List.mem_cons_self
      · exact List.mem_cons_of_mem b ((next_suffix b rest).subset (ih hmem))

/-! ## Cutting at an ASCII byte -/

/-- A byte that no character continues with ends one as the end of the bytes does. -/
theorem follow_append_ascii {more : Nat} {least greatest : UInt8} {value : Nat} {x : UInt8}
    (hleast : 0x80 ≤ least) (hx : x < 0x80) (bytes rest : List UInt8) :
    follow more least greatest value (bytes ++ x :: rest) =
      ((follow more least greatest value bytes).1,
        (follow more least greatest value bytes).2 ++ x :: rest) := by
  induction more generalizing least greatest value bytes with
  | zero => rfl
  | succ more ih =>
      cases bytes with
      | nil =>
          have hfits : ¬ (least ≤ x ∧ x ≤ greatest) := fun h =>
            absurd (UInt8.lt_of_lt_of_le hx (UInt8.le_trans hleast h.1)) (UInt8.lt_irrefl x)
          exact if_neg hfits
      | cons b bytes =>
          rw [List.cons_append, follow, follow]
          split
          · exact ih (UInt8.le_refl _) bytes
          · rfl

theorem least_of_lead? {b : UInt8} {lead : Lead} (hlead : lead? b = some lead) :
    0x80 ≤ lead.least := by
  unfold lead? at hlead
  split at hlead
  · simp at hlead
  · split at hlead
    · obtain rfl := Option.some.inj hlead
      exact UInt8.le_refl _
    · split at hlead
      · obtain rfl := Option.some.inj hlead
        dsimp only
        split <;> decide
      · split at hlead
        · obtain rfl := Option.some.inj hlead
          dsimp only
          split <;> decide
        · simp at hlead

theorem next_append_ascii {x : UInt8} (hx : x < 0x80) (b : UInt8) (bytes rest : List UInt8) :
    next b (bytes ++ x :: rest) = ((next b bytes).1, (next b bytes).2 ++ x :: rest) := by
  unfold next
  split
  · rfl
  · split
    · rfl
    next lead hlead => exact follow_append_ascii (least_of_lead? hlead) hx bytes rest

/-- An ASCII byte stands for itself, whatever is open before it. -/
theorem decode_append_ascii {x : UInt8} (hx : x < 0x80) (bytes rest : List UInt8) :
    decode (bytes ++ x :: rest) = decode bytes ++ Char.ofNat x.toNat :: decode rest := by
  induction bytes using decode_induction with
  | nil => rw [List.nil_append, decode_cons, next_ascii hx, decode_nil, List.nil_append]
  | cons b bytes ih =>
      rw [List.cons_append, decode_cons, next_append_ascii hx, ih, decode_cons b bytes,
        List.cons_append]

end WindowScript.Text.Utf8
