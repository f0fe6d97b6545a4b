/-
# The head of a text

Lines are recognised by how they start. What follows the head is a text of its
own.
-/

namespace WindowScript.Text

/-- What follows `head` in a text that starts with it. -/
def after? : List Char → List Char → Option (List Char)
  | [], cs => some cs
  | _ :: _, [] => none
  | h :: hs, c :: cs => if h = c then after? hs cs else none

/-- A text starts with `head` exactly when it is `head` and what follows it. -/
theorem after?_eq_some_iff {head cs rest : List Char} :
    after? head cs = some rest ↔ cs = head ++ rest := by
  induction head generalizing cs with
  | nil => simp [after?]
  | cons h hs ih =>
      cases cs with
      | nil => simp [after?]
      | cons c cs =>
          rw [after?]
          split
          next heq => simp [ih, heq]
          next hne => simp [Ne.symm hne]

end WindowScript.Text
