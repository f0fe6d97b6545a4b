/-
# Numerals

What a row of decimal digits denotes, said on its own: a digit denotes itself, and a
digit behind a numeral adds to ten times what stands before it. Nothing else is a
numeral, and there is no bound on its length or on its leading zeros. A sign may
stand in front of it. Reading digits computes what they denote, and writing a number
gives one of its numerals. Numerals of one length are ordered as texts like the numbers
that they denote.
-/

import Mathlib.Data.List.Induction
import WindowScript.Number.Decimal

namespace WindowScript.Number

/-- What one or more digits denote. -/
inductive Numeral : List Char → Nat → Prop
  | digit (d : Fin 10) : Numeral [Nat.digitChar d] d
  | snoc {ds : List Char} {n : Nat} (hds : Numeral ds n) (d : Fin 10) :
      Numeral (ds ++ [Nat.digitChar d]) (10 * n + d)

/-- What a numeral with or without a sign denotes. -/
inductive SignedNumeral : List Char → Int → Prop
  | plain {ds : List Char} {n : Nat} (hds : Numeral ds n) : SignedNumeral ds n
  | plus {ds : List Char} {n : Nat} (hds : Numeral ds n) : SignedNumeral ('+' :: ds) n
  | minus {ds : List Char} {n : Nat} (hds : Numeral ds n) : SignedNumeral ('-' :: ds) (-n)

/-! ## Reading -/

theorem exists_digitChar {c : Char} (hc : c.isDigit = true) :
    ∃ d : Fin 10, Nat.digitChar d = c := by
  have hrange : 48 ≤ c.toNat ∧ c.toNat ≤ 57 := Char.isDigit_iff_toNat.mp hc
  have hlt : c.toNat - 48 < 10 := by omega
  refine ⟨⟨c.toNat - 48, hlt⟩, Char.toNat_inj.mp ?_⟩
  rw [Nat.toNat_digitChar_of_lt_ten hlt]
  exact Nat.add_sub_cancel' hrange.1

theorem valueOfDigits_nil : valueOfDigits [] = 0 := rfl

theorem valueOfDigits_concat (ds : List Char) (d : Fin 10) :
    valueOfDigits (ds ++ [Nat.digitChar d]) = 10 * valueOfDigits ds + d := by
  rw [valueOfDigits, Nat.ofDigitChars_append, Nat.ofDigitChars_cons_digitChar_of_lt_ten d.isLt,
    Nat.ofDigitChars_nil, valueOfDigits]

/-- Numerals are the rows of digits that are not empty. -/
theorem numeral_iff {ds : List Char} {n : Nat} :
    Numeral ds n ↔ (ds ≠ [] ∧ ds.all Char.isDigit) ∧ valueOfDigits ds = n := by
  constructor
  · intro hds
    induction hds with
    | digit d =>
        have hvalue := valueOfDigits_concat [] d
        rw [valueOfDigits_nil, Nat.mul_zero, Nat.zero_add] at hvalue
        exact ⟨⟨by simp, by simp⟩, hvalue⟩
    | @snoc ds n hds d ih =>
        obtain ⟨⟨-, hall⟩, hvalue⟩ := ih
        refine ⟨⟨by simp, ?_⟩, by rw [valueOfDigits_concat, hvalue]⟩
        rw [List.all_append, hall]
        simp
  · rintro ⟨⟨hne, hall⟩, rfl⟩
    -- From the end, as the value of digits is built up there.
    induction ds using List.reverseRecOn with
    | nil => exact absurd rfl hne
    | append_singleton ds c ih =>
        rw [List.all_append, Bool.and_eq_true] at hall
        obtain ⟨d, rfl⟩ := exists_digitChar (by simpa using hall.2)
        rw [valueOfDigits_concat]
        cases ds with
        | nil =>
            rw [valueOfDigits_nil, Nat.mul_zero, Nat.zero_add]
            exact .digit d
        | cons c ds => exact .snoc (ih (by simp) hall.1) d

theorem Numeral.unique {ds : List Char} {m n : Nat} (hm : Numeral ds m) (hn : Numeral ds n) :
    m = n := by
  rw [← (numeral_iff.mp hm).2, ← (numeral_iff.mp hn).2]

theorem Numeral.head_ne {c : Char} {ds : List Char} {n : Nat} (hds : Numeral (c :: ds) n)
    {sign : Char} (hsign : sign.isDigit = false) : c ≠ sign := by
  rintro rfl
  obtain ⟨⟨-, hall⟩, -⟩ := numeral_iff.mp hds
  simp [hsign] at hall

theorem SignedNumeral.unique {ds : List Char} {m n : Int} (hm : SignedNumeral ds m)
    (hn : SignedNumeral ds n) : m = n := by
  cases hm with
  | plain hm =>
      cases hn with
      | plain hn => rw [hm.unique hn]
      | plus hn => exact absurd rfl (hm.head_ne (by decide))
      | minus hn => exact absurd rfl (hm.head_ne (by decide))
  | plus hm =>
      cases hn with
      | plain hn => exact absurd rfl (hn.head_ne (by decide))
      | plus hn => rw [hm.unique hn]
  | minus hm =>
      cases hn with
      | plain hn => exact absurd rfl (hn.head_ne (by decide))
      | minus hn => rw [hm.unique hn]

/-! ## Writing -/

theorem numeral_digits (n : Nat) : Numeral (digits n) n := by
  rw [numeral_iff]
  refine ⟨⟨Nat.toDigits_ne_nil, ?_⟩, valueOfDigits_digits n⟩
  rw [List.all_eq_true]
  exact fun c hc => Nat.isDigit_of_mem_toDigits (by decide) (by decide) hc

/-- Only zero is written with a zero in front. -/
theorem head?_digits_ne {n : Nat} (hn : n ≠ 0) : (digits n).head? ≠ some '0' := by
  have hdigit : ∀ d : Fin 10, d ≠ 0 → Nat.digitChar d ≠ '0' := by decide
  rw [digits]
  induction n using Nat.strongRecOn with
  | ind n ih =>
      by_cases hsmall : n < 10
      · rw [Nat.toDigits_of_lt_base hsmall, List.head?_cons, ne_eq, Option.some.injEq]
        exact hdigit ⟨n, hsmall⟩ (by simpa [Fin.ext_iff] using hn)
      · have hlarge : 10 ≤ n := Nat.le_of_not_lt hsmall
        have hfront := ih (n / 10) (by omega) (by omega)
        obtain ⟨d, ds, hds⟩ := List.exists_cons_of_ne_nil (Nat.toDigits_ne_nil : _ ≠ [])
        rw [Nat.toDigits_of_base_le (by decide) hlarge, hds]
        rwa [hds] at hfront

/-- Zeros in front of a numeral change nothing. -/
theorem numeral_padded (width n : Nat) : Numeral (padded width n).toList n := by
  obtain ⟨⟨hne, hall⟩, hvalue⟩ := numeral_iff.mp (numeral_digits n)
  rw [numeral_iff, padded, String.toList_ofList, List.leftpad]
  refine ⟨⟨by simp [hne], ?_⟩, ?_⟩
  · rw [List.all_append, hall, Bool.and_true, List.all_replicate]
    simp
  · rw [valueOfDigits, Nat.ofDigitChars_append, Nat.ofDigitChars_replicate_zero, Nat.mul_zero]
    exact hvalue

theorem length_digits_le_two {n : Nat} (hn : n < 100) : (digits n).length ≤ 2 :=
  (Nat.length_toDigits_le_iff (by decide) (by decide)).mpr hn

theorem length_padded {width n : Nat} (hlength : (digits n).length ≤ width) :
    (padded width n).toList.length = width := by
  rw [padded, String.toList_ofList, List.length_leftpad]
  exact Nat.max_eq_left hlength

theorem signedNumeral_decimalInt (n : Int) : SignedNumeral (decimalInt n).toList n := by
  have hdigits := numeral_digits n.natAbs
  rw [toList_decimalInt]
  split
  next hneg =>
      obtain hn : n = -(n.natAbs : Int) := by omega
      rw [hn, Int.natAbs_neg, Int.natAbs_natCast]
      exact .minus hdigits
  next hneg =>
      obtain hn : n = (n.natAbs : Int) := by omega
      rw [hn, Int.natAbs_natCast]
      exact .plain hdigits

/-- The decimal text of an integer is the standard one. -/
theorem decimalInt_eq_toString (n : Int) : decimalInt n = toString n := by
  cases n with
  | ofNat n => rfl
  | negSucc n =>
      rw [decimalInt, if_pos (Int.negSucc_lt_zero n)]
      rfl

/-! ## Order -/

/-- What follows texts of one length does not change their order. -/
theorem append_lt_append {first second : List Char} (hlt : first < second)
    (hlength : first.length = second.length) (rest more : List Char) :
    first ++ rest < second ++ more := by
  induction hlt with
  | nil => simp at hlength
  | rel hlt => exact .rel hlt
  | cons _ ih => exact .cons (ih (Nat.succ.inj hlength))

/-- Numerals of one length are in the order of what they denote. -/
theorem Numeral.order {ds es : List Char} {m n : Nat} (hds : Numeral ds m) (hes : Numeral es n)
    (hlength : ds.length = es.length) : (m < n → ds < es) ∧ (m = n → ds = es) := by
  have hdigits : ∀ d e : Fin 10, d < e → [Nat.digitChar d] < [Nat.digitChar e] := by decide
  have hlong {cs : List Char} {k : Nat} (hcs : Numeral cs k) : 0 < cs.length :=
    List.length_pos_iff.mpr (numeral_iff.mp hcs).1.1
  induction hds generalizing es n with
  | digit d =>
      cases hes with
      | digit e =>
          refine ⟨hdigits d e, fun heq => ?_⟩
          rw [heq]
      | snoc hes e =>
          have hpos := hlong hes
          simp only [List.length_append, List.length_singleton] at hlength
          omega
  | @snoc ds m hds d ih =>
      cases hes with
      | digit e =>
          have hpos := hlong hds
          simp only [List.length_append, List.length_singleton] at hlength
          omega
      | @snoc es n hes e =>
          have hfront : ds.length = es.length := by simpa using hlength
          obtain ⟨hless, hsame⟩ := ih hes hfront
          constructor
          · intro hlt
            rcases Nat.lt_or_ge m n with hmn | hmn
            · exact append_lt_append (hless hmn) hfront _ _
            · have hmn : m = n := by omega
              rw [hsame hmn]
              exact List.append_left_lt (hdigits d e (by omega))
          · intro heq
            have hmn : m = n := by omega
            have hde : d = e := by omega
            rw [hsame hmn, hde]

end WindowScript.Number
