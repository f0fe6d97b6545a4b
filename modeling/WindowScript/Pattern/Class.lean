/-
# Character classes

A class in brackets is a list of items: single units, sets such as the digits,
and dashes. A dash between two single units makes a range, whose ends must be in
order. Units have sixteen bits, so a character above U+FFFF is two items, and
only its second half takes part in a range to its right.
-/

import WindowScript.Pattern.Fault
import WindowScript.Text.Hex
import WindowScript.Text.Units

namespace WindowScript.Pattern

open WindowScript.Text

/-- An item of a class. -/
inductive Item
  | unit (code : Nat)
  | dash
  | set
  deriving DecidableEq, Repr

namespace Item

/-- The unit that an item denotes. A set denotes no single unit. -/
def code? : Item → Option Nat
  | .unit code => some code
  | .dash => some '-'.toNat
  | .set => none

/-- The items of a literal character. -/
def ofChar (c : Char) : List Item :=
  if c = '-' then [.dash] else (units c).map .unit

/-- Whether two items are the ends of a range in the wrong order. -/
def outOfOrder (first last : Item) : Bool :=
  match first.code?, last.code? with
  | some a, some b => b < a
  | _, _ => false

end Item

/-- Whether some range of a class has its ends in the wrong order. A dash at the
end of the class makes no range. -/
def hasDisorder : List Item → Bool
  | first :: .dash :: last :: rest => first.outOfOrder last || hasDisorder rest
  | _ :: rest => hasDisorder rest
  | [] => false

/-- Octal digits. -/
def isOctal (c : Char) : Bool := '0' ≤ c && c ≤ '7'

/-- Take one more octal digit onto a value below `bound`, if there is one. -/
def octalDigit (bound value : Nat) : List Char → Nat × List Char
  | c :: rest =>
      if isOctal c && value < bound then (8 * value + (c.toNat - '0'.toNat), rest)
      else (value, c :: rest)
  | [] => (value, [])

/-- The value of an octal escape after its first digit: up to three digits, the
third only while the value stays below 256. -/
def octal (first : Char) (cs : List Char) : Nat × List Char :=
  let two := octalDigit 8 (first.toNat - '0'.toNat) cs
  if two.2.length < cs.length then octalDigit 32 two.1 two.2 else two

/-- The units of the escapes for control characters. -/
def controlEscape? (c : Char) : Option Nat :=
  match c with
  | 'b' => some 8
  | 't' => some 9
  | 'n' => some 10
  | 'v' => some 11
  | 'f' => some 12
  | 'r' => some 13
  | _ => none

/-- The items of an escape inside a class, read after its backslash. A control
letter that is missing leaves a plain backslash, and digits that are missing
leave a plain letter. -/
def escapedItems (hasNames : Bool) (c : Char) (rest : List Char) :
    Except Fault (List Item × List Char) :=
  if c ∈ ['d', 'D', 's', 'S', 'w', 'W'] then .ok ([.set], rest)
  else match controlEscape? c with
    | some code => .ok ([.unit code], rest)
    | none =>
        if c = 'c' then
          match rest with
          | letter :: more =>
              if letter.isAlphanum || letter = '_' then .ok ([.unit (letter.toNat % 32)], more)
              else .ok ([.unit '\\'.toNat], c :: rest)
          | [] => .ok ([.unit '\\'.toNat], c :: rest)
        else if isOctal c then .ok ([.unit (octal c rest).1], (octal c rest).2)
        else if c = 'x' ∨ c = 'u' then
          match hexDigits? (if c = 'x' then 2 else 4) 0 rest with
          | some (code, more) => .ok ([.unit code], more)
          | none => .ok ([.unit c.toNat], rest)
        else if c = 'k' ∧ hasNames then .error .invalidEscape
        else .ok ((units c).map .unit, rest)

theorem length_octalDigit_le (bound value : Nat) (cs : List Char) :
    (octalDigit bound value cs).2.length ≤ cs.length := by
  unfold octalDigit
  split
  · split <;> simp
  · exact Nat.le_refl _

theorem length_octal_le (first : Char) (cs : List Char) :
    (octal first cs).2.length ≤ cs.length := by
  simp only [octal]
  split
  next hlt => exact Nat.le_trans (length_octalDigit_le _ _ _) (Nat.le_of_lt hlt)
  next => exact length_octalDigit_le _ _ _

/-- An escape uses up at least its backslash. -/
theorem length_of_escapedItems {hasNames : Bool} {c : Char} {cs rest : List Char}
    {items : List Item} (hread : escapedItems hasNames c cs = .ok (items, rest)) :
    rest.length ≤ cs.length + 1 := by
  unfold escapedItems at hread
  split at hread
  · simp only [Except.ok.injEq, Prod.mk.injEq] at hread
    rw [← hread.2]
    omega
  · split at hread
    · simp only [Except.ok.injEq, Prod.mk.injEq] at hread
      rw [← hread.2]
      omega
    · split at hread
      · split at hread
        · split at hread
          · simp only [Except.ok.injEq, Prod.mk.injEq] at hread
            rw [← hread.2]
            simp only [List.length_cons]
            omega
          · simp only [Except.ok.injEq, Prod.mk.injEq] at hread
            rw [← hread.2]
            exact Nat.le_refl _
        · simp only [Except.ok.injEq, Prod.mk.injEq] at hread
          rw [← hread.2]
          exact Nat.le_refl _
      · split at hread
        · simp only [Except.ok.injEq, Prod.mk.injEq] at hread
          rw [← hread.2]
          exact Nat.le_succ_of_le (length_octal_le c cs)
        · split at hread
          · split at hread
            next code more hdigits =>
                simp only [Except.ok.injEq, Prod.mk.injEq] at hread
                rw [← hread.2]
                exact Nat.le_succ_of_le (length_of_hexDigits? hdigits)
            next =>
                simp only [Except.ok.injEq, Prod.mk.injEq] at hread
                rw [← hread.2]
                omega
          · split at hread
            · simp at hread
            · simp only [Except.ok.injEq, Prod.mk.injEq] at hread
              rw [← hread.2]
              omega

/-- The items of a class up to its closing bracket, with the text after the
bracket, or with the fault that ended the reading. -/
structure Body where
  items : List Item
  ending : Except Fault (List Char)

/-- Put items in front of a body. -/
def Body.cons (items : List Item) (body : Body) : Body :=
  ⟨items ++ body.items, body.ending⟩

/-- Read the body of a class. -/
def classBody (hasNames : Bool) : List Char → Body
  | [] => ⟨[], .error .unterminatedClass⟩
  | c :: cs =>
      if c = ']' then ⟨[], .ok cs⟩
      else if c = '\\' then
        match cs with
        | [] => ⟨[], .error .escapeAtEnd⟩
        | d :: rest =>
            match hread : escapedItems hasNames d rest with
            | .error fault => ⟨[], .error fault⟩
            | .ok (items, after) =>
                have := length_of_escapedItems hread
                (classBody hasNames after).cons items
      else (classBody hasNames cs).cons (Item.ofChar c)
termination_by cs => cs.length
decreasing_by
  · simp only [List.length_cons]
    omega
  · simp

theorem length_of_classBody {hasNames : Bool} {cs rest : List Char}
    (hbody : (classBody hasNames cs).ending = .ok rest) : rest.length ≤ cs.length := by
  induction hn : cs.length using Nat.strongRecOn generalizing cs with
  | ind n ih =>
      cases cs with
      | nil => simp [classBody] at hbody
      | cons c cs =>
          simp only [List.length_cons] at hn
          unfold classBody at hbody
          split at hbody
          · simp only [Except.ok.injEq] at hbody
            rw [← hbody]
            omega
          · split at hbody
            · split at hbody
              · simp at hbody
              next d more =>
                  simp only [List.length_cons] at hn
                  split at hbody
                  · simp at hbody
                  next items after hread =>
                      have hle := length_of_escapedItems hread
                      have := ih after.length (by omega) hbody rfl
                      omega
            · have := ih cs.length (by omega) hbody rfl
              omega

/-- Drop the mark of a negated class. -/
def dropCaret : List Char → List Char
  | '^' :: rest => rest
  | cs => cs

theorem length_dropCaret_le (cs : List Char) : (dropCaret cs).length ≤ cs.length := by
  unfold dropCaret
  split <;> simp

/-- Read a class after its opening bracket. A range out of order is found before
any fault to its right. -/
def afterClass (hasNames : Bool) (cs : List Char) : Except Fault (List Char) :=
  let body := classBody hasNames (dropCaret cs)
  if hasDisorder body.items then .error .rangeOutOfOrder else body.ending

/-- A class ends within the text it is read from. -/
theorem length_of_afterClass {hasNames : Bool} {cs rest : List Char}
    (hclass : afterClass hasNames cs = .ok rest) : rest.length ≤ cs.length := by
  simp only [afterClass] at hclass
  split at hclass
  · simp at hclass
  · exact Nat.le_trans (length_of_classBody hclass) (length_dropCaret_le cs)

end WindowScript.Pattern
