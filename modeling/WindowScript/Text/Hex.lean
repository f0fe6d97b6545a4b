/-
# Hexadecimal digits

Readers of escapes share the value of one hexadecimal digit, of either case, and
of a fixed number of them.
-/

namespace WindowScript.Text

/-- The value of a hexadecimal digit. -/
def hexDigit? (c : Char) : Option Nat :=
  if '0' ≤ c ∧ c ≤ '9' then some (c.toNat - '0'.toNat)
  else if 'a' ≤ c ∧ c ≤ 'f' then some (c.toNat - 'a'.toNat + 10)
  else if 'A' ≤ c ∧ c ≤ 'F' then some (c.toNat - 'A'.toNat + 10)
  else none

/-- Read exactly `count` hexadecimal digits after the value read so far. -/
def hexDigits? : Nat → Nat → List Char → Option (Nat × List Char)
  | 0, value, rest => some (value, rest)
  | _ + 1, _, [] => none
  | count + 1, value, c :: rest =>
      match hexDigit? c with
      | none => none
      | some d => hexDigits? count (16 * value + d) rest

/-- Reading digits never lengthens the text that is left. -/
theorem length_of_hexDigits? {count value result : Nat} {cs rest : List Char}
    (hread : hexDigits? count value cs = some (result, rest)) :
    rest.length ≤ cs.length := by
  induction count generalizing value cs with
  | zero =>
      simp only [hexDigits?, Option.some.injEq, Prod.mk.injEq] at hread
      exact Nat.le_of_eq (congrArg List.length hread.2.symm)
  | succ count ih =>
      cases cs with
      | nil => simp [hexDigits?] at hread
      | cons c cs =>
          rw [hexDigits?] at hread
          split at hread
          · simp at hread
          · exact Nat.le_succ_of_le (ih hread)

end WindowScript.Text
