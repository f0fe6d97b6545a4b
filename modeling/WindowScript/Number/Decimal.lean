/-
# Decimal digits

Natural numbers and integers in base ten. Digits are ASCII only, and leading
zeros change nothing when digits are read.
-/

namespace WindowScript.Number

/-- The decimal digits of a number, without leading zeros. -/
def digits (n : Nat) : List Char := Nat.toDigits 10 n

/-- The number that decimal digits denote. -/
def valueOfDigits (ds : List Char) : Nat := Nat.ofDigitChars 10 ds 0

/-- Decimal text of a natural number. -/
def decimal (n : Nat) : String := String.ofList (digits n)

/-- Decimal text of an integer, with a minus sign below zero. -/
def decimalInt (n : Int) : String :=
  if n < 0 then "-" ++ decimal n.natAbs else decimal n.natAbs

/-- Decimal text filled up with zeros on the left to a given width. -/
def padded (width n : Nat) : String :=
  String.ofList (List.leftpad width '0' (digits n))

/-- Digits read back as the number they were written for. -/
@[simp]
theorem valueOfDigits_digits (n : Nat) : valueOfDigits (digits n) = n :=
  Nat.ofDigitChars_ten_toDigits

theorem not_mem_digits {c : Char} (hc : c.isDigit = false) (n : Nat) : c ∉ digits n := by
  intro hmem
  have hdigit := Nat.isDigit_of_mem_toDigits (by decide) (by decide) hmem
  simp [hc] at hdigit

theorem not_mem_padded {c : Char} (hc : c.isDigit = false) (width n : Nat) :
    c ∉ (padded width n).toList := by
  have hzero : c ≠ '0' := by
    rintro rfl
    simp at hc
  simp [padded, List.leftpad, hzero, not_mem_digits hc]

theorem toList_decimalInt (n : Int) :
    (decimalInt n).toList = if n < 0 then '-' :: digits n.natAbs else digits n.natAbs := by
  unfold decimalInt
  split <;> simp [decimal]

theorem not_mem_decimalInt {c : Char} (hdigit : c.isDigit = false) (hsign : c ≠ '-') (n : Int) :
    c ∉ (decimalInt n).toList := by
  rw [toList_decimalInt]
  split <;> simp [hsign, not_mem_digits hdigit]

/-- Different integers have different texts. -/
theorem eq_of_decimalInt_eq {m n : Int} (heq : decimalInt m = decimalInt n) : m = n := by
  have hsign (k : Nat) : '-' ∉ digits k := not_mem_digits (by decide) k
  have hchars := congrArg String.toList heq
  rw [toList_decimalInt, toList_decimalInt] at hchars
  split at hchars <;> split at hchars
  · have habs := congrArg valueOfDigits (List.cons.inj hchars).2
    simp only [valueOfDigits_digits] at habs
    omega
  · exact absurd (hchars ▸ List.mem_cons_self) (hsign n.natAbs)
  · exact absurd (hchars ▸ List.mem_cons_self) (hsign m.natAbs)
  · have habs := congrArg valueOfDigits hchars
    simp only [valueOfDigits_digits] at habs
    omega

end WindowScript.Number
