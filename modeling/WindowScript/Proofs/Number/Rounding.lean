/-
# Rounding of integers

An integer is read as the number nearest to it. Below `2 ^ 53` it is that number
itself. From there on it may be rounded, even to an infinity, but rounding keeps its
sign and never carries it back below `2 ^ 53`, because the power itself can be held
exactly. So a number in the exact range is known to be the integer that was read.
-/

import WindowScript.Number.Basic

namespace WindowScript.Number

/-! ## Large integers -/

theorem le_roundHalfEven (num den : Nat) : num / den ≤ roundHalfEven num den := by
  unfold roundHalfEven
  dsimp only
  split
  · exact Nat.le_refl _
  · split
    · exact Nat.le_succ _
    · split
      · exact Nat.le_refl _
      · exact Nat.le_succ _

/-- The last bit that is kept of a large natural number is one of its own bits. -/
theorem lastBit_of_large {n : Nat} (hlarge : twoTo 53 ≤ n) :
    0 ≤ lastBit n 1 ∧ twoTo (lastBit n 1).toNat ≤ n := by
  have hpos : n ≠ 0 := by
    rintro rfl
    exact absurd hlarge (by decide)
  have hlog : 53 ≤ n.log2 := (Nat.le_log2 hpos).mpr hlarge
  have hone : Nat.log2 1 = 0 := by decide
  have hbounds : 0 ≤ lastBit n 1 ∧ (lastBit n 1).toNat ≤ n.log2 := by
    unfold lastBit
    dsimp only
    rw [hone]
    split <;> omega
  exact ⟨hbounds.1, (Nat.le_log2 hpos).mp hbounds.2⟩

/-- Rounding at a bit of a number does not carry it below a power of two. -/
theorem twoTo_le_roundHalfEven_mul {n k e : Nat} (hk : twoTo k ≤ n) (he : twoTo e ≤ n) :
    twoTo k ≤ roundHalfEven n (twoTo e) * twoTo e := by
  have hpos : 0 < twoTo e := Nat.two_pow_pos e
  have hround : n / twoTo e * twoTo e ≤ roundHalfEven n (twoTo e) * twoTo e :=
    Nat.mul_le_mul_right _ (le_roundHalfEven n (twoTo e))
  apply Nat.le_trans ?_ hround
  rcases Nat.le_total k e with hke | hek
  · have hquotient : 1 ≤ n / twoTo e := Nat.div_pos he hpos
    calc twoTo k ≤ twoTo e := Nat.pow_le_pow_right (by decide) hke
      _ = 1 * twoTo e := (Nat.one_mul _).symm
      _ ≤ n / twoTo e * twoTo e := Nat.mul_le_mul_right _ hquotient
  · have hpow : twoTo (k - e) * twoTo e = twoTo k := Nat.pow_sub_mul_pow 2 hek
    have hquotient : twoTo (k - e) ≤ n / twoTo e := by
      rw [Nat.le_div_iff_mul_le hpos, hpow]
      exact hk
    calc twoTo k = twoTo (k - e) * twoTo e := hpow.symm
      _ ≤ n / twoTo e * twoTo e := Nat.mul_le_mul_right _ hquotient

/-- What an integer is read as. -/
theorem ofInt_cases (n : Int) :
    (n.natAbs < twoTo 53 ∧ ofInt n = .integer n) ∨
    (twoTo 53 ≤ n.natAbs ∧
      (ofInt n = .infinite (decide (n < 0)) ∨
        ∃ value, twoTo 53 ≤ value ∧ ofInt n = .integer (signed (decide (n < 0)) value))) := by
  rw [ofInt]
  split
  next hsmall => exact .inl ⟨hsmall, rfl⟩
  next hsmall =>
      have hlarge : twoTo 53 ≤ n.natAbs := Nat.le_of_not_lt hsmall
      obtain ⟨hbit, hle⟩ := lastBit_of_large hlarge
      have hne : n.natAbs ≠ 0 := by
        intro hzero
        rw [hzero] at hlarge
        exact absurd hlarge (by decide)
      have hvalue := twoTo_le_roundHalfEven_mul hlarge hle
      refine .inr ⟨hlarge, ?_⟩
      rw [ofRatio, if_neg hne]
      dsimp only
      rw [if_pos hbit, Nat.one_mul]
      split
      · exact .inl rfl
      · exact .inr ⟨_, hvalue, rfl⟩

/-! ## Sign and exactness -/

theorem below_zero_signed {value : Nat} (hvalue : 0 < value) (negative : Bool) :
    (integer (signed negative value)).below 0 = negative := by
  cases negative with
  | false => exact decide_eq_false (Int.not_lt.mpr (Int.natCast_nonneg value))
  | true => exact decide_eq_true (Int.neg_neg_of_pos (Int.natCast_pos.mpr hvalue))

/-- Rounding keeps the sign of an integer. -/
theorem below_zero_ofInt (n : Int) : (ofInt n).below 0 = decide (n < 0) := by
  rcases ofInt_cases n with ⟨-, hexact⟩ | ⟨-, hinfinite | ⟨value, hvalue, hrounded⟩⟩
  · rw [hexact]
    rfl
  · rw [hinfinite]
    rfl
  · rw [hrounded]
    exact below_zero_signed (Nat.lt_of_lt_of_le (by decide) hvalue) _

theorem natAbs_signed (negative : Bool) (value : Nat) : (signed negative value).natAbs = value := by
  cases negative <;> simp [signed]

/-- An integer is read as a number in the exact range only if it is that number. -/
theorem safeInteger?_ofInt (n : Int) :
    (ofInt n).safeInteger? = if n.natAbs < twoTo 53 then some n else none := by
  rcases ofInt_cases n with ⟨hsmall, hexact⟩ | ⟨hlarge, hinfinite | ⟨value, hvalue, hrounded⟩⟩
  · rw [hexact]
    rfl
  · rw [hinfinite, if_neg (Nat.not_lt.mpr hlarge)]
    rfl
  · rw [hrounded, safeInteger?, natAbs_signed, if_neg (Nat.not_lt.mpr hvalue),
      if_neg (Nat.not_lt.mpr hlarge)]

end WindowScript.Number
