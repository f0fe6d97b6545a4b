/-
# Names of groups

A group may be named, and a reference may name it. A name is an identifier up to
a closing angle bracket. Its characters may be written as escapes, with four
hexadecimal digits, with a pair of such escapes for one character, or with any
number of digits in braces. The escapes are decoded before anything is compared.
-/

import WindowScript.Pattern.Fault
import WindowScript.Text.Hex
import WindowScript.Text.Identifier
import WindowScript.Text.Units

namespace WindowScript.Pattern

open WindowScript.Text

/-- A group name, as code points. -/
abbrev Name := List Nat

/-- The code point of an escape in braces, read after the opening brace. -/
def bracedCode? (cs : List Char) : Option (Nat × List Char) :=
  let ds := cs.takeWhile fun c => (hexDigit? c).isSome
  let value := ds.foldl (fun value c => 16 * value + (hexDigit? c).getD 0) 0
  match cs.dropWhile fun c => (hexDigit? c).isSome with
  | '\x7d' :: rest => if ds ≠ [] ∧ value ≤ 0x10FFFF then some (value, rest) else none
  | _ => none

/-- The code point of an escape with four digits. The two halves of a pair, one
escape after the other, are one code point. -/
def pairedCode? (cs : List Char) : Option (Nat × List Char) :=
  match hexDigits? 4 0 cs with
  | none => none
  | some (unit, rest) =>
      if isHighUnit unit then
        match rest with
        | '\\' :: 'u' :: more =>
            match hexDigits? 4 0 more with
            | some (low, after) =>
                if isLowUnit low then some (pairValue unit low, after) else some (unit, rest)
            | none => some (unit, rest)
        | _ => some (unit, rest)
      else some (unit, rest)

/-- The code point of an escape, read after its backslash and letter. -/
def escapedCode? : List Char → Option (Nat × List Char)
  | '\x7b' :: rest => bracedCode? rest
  | cs => pairedCode? cs

/-- The code point at the head of a name that starts with `c`. -/
def nextCode (c : Char) (cs : List Char) : Except Fault (Nat × List Char) :=
  match c, cs with
  | '\\', 'u' :: rest =>
      match escapedCode? rest with
      | some found => .ok found
      | none => .error .invalidUnicodeEscape
  | _, _ => .ok (c.toNat, cs)

theorem length_of_bracedCode? {cs rest : List Char} {code : Nat}
    (hread : bracedCode? cs = some (code, rest)) : rest.length ≤ cs.length := by
  have hdrop := (List.dropWhile_suffix (l := cs) fun c => (hexDigit? c).isSome).length_le
  simp only [bracedCode?] at hread
  split at hread
  next tail htail =>
      rw [htail] at hdrop
      split at hread
      · simp only [Option.some.injEq, Prod.mk.injEq] at hread
        rw [← hread.2]
        exact Nat.le_of_succ_le hdrop
      · simp at hread
  next => simp at hread

theorem length_of_pairedCode? {cs rest : List Char} {code : Nat}
    (hread : pairedCode? cs = some (code, rest)) : rest.length ≤ cs.length := by
  rw [pairedCode?] at hread
  split at hread
  next => simp at hread
  next unit first hfirst =>
      have hle := length_of_hexDigits? hfirst
      split at hread
      · split at hread
        next more =>
            split at hread
            next low after hafter =>
                have hmore := length_of_hexDigits? hafter
                split at hread
                · simp only [Option.some.injEq, Prod.mk.injEq] at hread
                  rw [← hread.2]
                  simp only [List.length_cons] at hle
                  omega
                · simp only [Option.some.injEq, Prod.mk.injEq] at hread
                  rw [← hread.2]
                  exact hle
            next =>
                simp only [Option.some.injEq, Prod.mk.injEq] at hread
                rw [← hread.2]
                exact hle
        next =>
            simp only [Option.some.injEq, Prod.mk.injEq] at hread
            rw [← hread.2]
            exact hle
      · simp only [Option.some.injEq, Prod.mk.injEq] at hread
        rw [← hread.2]
        exact hle

/-- A code point uses up at least the character it starts with. -/
theorem length_of_nextCode {c : Char} {cs rest : List Char} {code : Nat}
    (hread : nextCode c cs = .ok (code, rest)) : rest.length ≤ cs.length := by
  unfold nextCode at hread
  split at hread
  next tail =>
      split at hread
      next found hfound =>
          simp only [Except.ok.injEq] at hread
          rw [hread] at hfound
          unfold escapedCode? at hfound
          split at hfound
          next more =>
              have := length_of_bracedCode? hfound
              simp only [List.length_cons]
              omega
          next =>
              have := length_of_pairedCode? hfound
              simp only [List.length_cons]
              omega
      next => simp at hread
  next =>
      simp only [Except.ok.injEq, Prod.mk.injEq] at hread
      exact Nat.le_of_eq (congrArg List.length hread.2.symm)

/-- Read the rest of a name after the code points `done`, held last first. -/
def nameAfter (done : Name) : List Char → Except Fault (Name × List Char)
  | [] => .error .invalidName
  | c :: cs =>
      match hread : nextCode c cs with
      | .error fault => .error fault
      | .ok (code, rest) =>
          have := length_of_nextCode hread
          if done = [] then
            if isIdentifierStart code then nameAfter [code] rest else .error .invalidName
          else if code = '>'.toNat then .ok (done.reverse, rest)
          else if isIdentifierPart code then nameAfter (code :: done) rest
          else .error .invalidName
termination_by cs => cs.length
decreasing_by all_goals exact Nat.lt_succ_of_le this

/-- Read a name and its closing angle bracket. -/
def name (cs : List Char) : Except Fault (Name × List Char) := nameAfter [] cs

theorem length_of_nameAfter {done result : Name} {cs rest : List Char}
    (hname : nameAfter done cs = .ok (result, rest)) : rest.length ≤ cs.length := by
  induction hn : cs.length using Nat.strongRecOn generalizing done cs with
  | ind n ih =>
      cases cs with
      | nil => simp [nameAfter] at hname
      | cons c cs =>
          rw [nameAfter] at hname
          split at hname
          next => simp at hname
          next code after hread =>
              have hle := length_of_nextCode hread
              have hlt : after.length < n := by
                rw [← hn]
                exact Nat.lt_succ_of_le hle
              split at hname
              · split at hname
                · have := ih _ hlt hname rfl
                  omega
                · simp at hname
              · split at hname
                · simp only [Except.ok.injEq, Prod.mk.injEq] at hname
                  rw [← hname.2]
                  omega
                · split at hname
                  · have := ih _ hlt hname rfl
                    omega
                  · simp at hname

end WindowScript.Pattern
