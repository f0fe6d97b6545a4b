/-
# Pieces of a pattern

A pattern is read from left to right as a list of pieces: openings and closings
of groups, things that can be repeated, repetitions, references to named groups,
and boundaries, after which nothing is left to repeat. A fault of spelling is a
piece too, so that whatever is wrong to its left is still found first.
-/

import WindowScript.Pattern.Class
import WindowScript.Pattern.Name
import WindowScript.Number.Decimal

namespace WindowScript.Pattern

open WindowScript.Text

/-- The kinds of groups. -/
inductive Group
  | plain
  | named (name : Name)
  | lookahead
  | lookbehind
  deriving DecidableEq, Repr

/-- A piece of a pattern. A repetition without `most` is unbounded. -/
inductive Piece
  | boundary
  | opening (group : Group)
  | closing
  | atom
  | reference (name : Name)
  | repetition (least : Nat) (most : Option Nat)
  | fault (fault : Fault)
  deriving DecidableEq, Repr

/-- Whether a pattern opens a named group anywhere. A backslash hides the next
character, and a class hides everything in it. -/
def opensNamed (inClass : Bool) : List Char → Bool
  | '\\' :: _ :: rest => opensNamed inClass rest
  | ']' :: rest => opensNamed false rest
  | '[' :: rest => opensNamed true rest
  | '(' :: '?' :: '<' :: rest =>
      (!inClass && rest.head? ≠ some '=' && rest.head? ≠ some '!') || opensNamed inClass rest
  | _ :: rest => opensNamed inClass rest
  | [] => false

/-- The largest count a repetition distinguishes. -/
def maxCount : Nat := 2147483647

/-- A decimal count at the head of a text, if there is one. -/
def count? (cs : List Char) : Option (Nat × List Char) :=
  let ds := cs.takeWhile Char.isDigit
  if ds = [] then none
  else some (min (Number.valueOfDigits ds) maxCount, cs.dropWhile Char.isDigit)

/-- The counts of an interval, read after its opening brace. -/
def interval? (cs : List Char) : Option (Nat × Option Nat × List Char) :=
  match count? cs with
  | none => none
  | some (least, '\x7d' :: rest) => some (least, some least, rest)
  | some (least, ',' :: '\x7d' :: rest) => some (least, none, rest)
  | some (least, ',' :: rest) =>
      match count? rest with
      | some (most, '\x7d' :: more) => some (least, some most, more)
      | _ => none
  | some _ => none

/-- Drop the mark of a lazy repetition. -/
def dropLazy : List Char → List Char
  | '?' :: rest => rest
  | cs => cs

/-- Read a named thing after its opening angle bracket. -/
def namedPiece (piece : Name → Piece) (cs : List Char) : Piece × List Char :=
  match name cs with
  | .ok (found, rest) => (piece found, rest)
  | .error fault => (.fault fault, [])

/-- Read the opening of a group after its parenthesis. -/
def opening : List Char → Piece × List Char
  | '?' :: ':' :: rest => (.opening .plain, rest)
  | '?' :: '=' :: rest => (.opening .lookahead, rest)
  | '?' :: '!' :: rest => (.opening .lookahead, rest)
  | '?' :: '<' :: '=' :: rest => (.opening .lookbehind, rest)
  | '?' :: '<' :: '!' :: rest => (.opening .lookbehind, rest)
  | '?' :: '<' :: rest => namedPiece (fun found => .opening (.named found)) rest
  | '?' :: _ => (.fault .invalidGroup, [])
  | cs => (.opening .plain, cs)

/-- Read an escape after its backslash. Escapes with digits need no rule of their
own here, since digits that are left over can be repeated just as well. -/
def escape (hasNames : Bool) : List Char → Piece × List Char
  | [] => (.fault .escapeAtEnd, [])
  | 'b' :: rest => (.boundary, rest)
  | 'B' :: rest => (.boundary, rest)
  | 'k' :: rest =>
      if hasNames then
        match rest with
        | '<' :: more => namedPiece .reference more
        | _ => (.fault .invalidReference, [])
      else (.atom, rest)
  | _ :: rest => (.atom, rest)

/-- The piece that starts with `c`, and the text after it. -/
def nextPiece (hasNames : Bool) (c : Char) (cs : List Char) : Piece × List Char :=
  match c with
  | '|' | '^' | '$' => (.boundary, cs)
  | '(' => opening cs
  | ')' => (.closing, cs)
  | '*' => (.repetition 0 none, dropLazy cs)
  | '+' => (.repetition 1 none, dropLazy cs)
  | '?' => (.repetition 0 (some 1), dropLazy cs)
  | '\x7b' =>
      match interval? cs with
      | some (least, most, rest) => (.repetition least most, dropLazy rest)
      | none => (.atom, cs)
  | '[' =>
      match afterClass hasNames cs with
      | .ok rest => (.atom, rest)
      | .error fault => (.fault fault, [])
  | '\\' => escape hasNames cs
  | _ => (.atom, cs)

theorem length_dropLazy_le (cs : List Char) : (dropLazy cs).length ≤ cs.length := by
  unfold dropLazy
  split <;> simp

theorem length_of_count? {cs rest : List Char} {value : Nat}
    (hcount : count? cs = some (value, rest)) : rest.length ≤ cs.length := by
  simp only [count?] at hcount
  split at hcount
  · simp at hcount
  · simp only [Option.some.injEq, Prod.mk.injEq] at hcount
    rw [← hcount.2]
    exact (List.dropWhile_suffix _).length_le

theorem length_of_interval? {cs rest : List Char} {least : Nat} {most : Option Nat}
    (hinterval : interval? cs = some (least, most, rest)) : rest.length ≤ cs.length := by
  unfold interval? at hinterval
  split at hinterval
  next => simp at hinterval
  next first tail hcount =>
      have hle := length_of_count? hcount
      simp only [Option.some.injEq, Prod.mk.injEq] at hinterval
      rw [← hinterval.2.2]
      exact Nat.le_of_succ_le hle
  next first tail hcount =>
      have hle := length_of_count? hcount
      simp only [Option.some.injEq, Prod.mk.injEq] at hinterval
      rw [← hinterval.2.2]
      simp only [List.length_cons] at hle
      omega
  next first tail _ hcount =>
      have hle := length_of_count? hcount
      simp only [List.length_cons] at hle
      split at hinterval
      next last more hlast =>
          have hmore := length_of_count? hlast
          simp only [List.length_cons] at hmore
          simp only [Option.some.injEq, Prod.mk.injEq] at hinterval
          rw [← hinterval.2.2]
          omega
      next => simp at hinterval
  next => simp at hinterval

theorem length_namedPiece_le (piece : Name → Piece) (cs : List Char) :
    (namedPiece piece cs).2.length ≤ cs.length := by
  unfold namedPiece
  split
  next found rest hname => exact length_of_nameAfter hname
  next => simp

theorem length_opening_le (cs : List Char) : (opening cs).2.length ≤ cs.length := by
  unfold opening
  split
  case h_6 rest _ _ =>
      have := length_namedPiece_le (fun found => .opening (.named found)) rest
      simp only [List.length_cons]
      omega
  all_goals simp only [List.length_cons, List.length_nil]
  all_goals omega

theorem length_escape_le (hasNames : Bool) (cs : List Char) :
    (escape hasNames cs).2.length ≤ cs.length := by
  unfold escape
  split
  case h_4 rest =>
      split
      · split
        next more =>
            have := length_namedPiece_le .reference more
            simp only [List.length_cons]
            omega
        next => simp
      · simp
  all_goals simp

/-- A piece uses up at least the character it starts with. -/
theorem length_nextPiece_le (hasNames : Bool) (c : Char) (cs : List Char) :
    (nextPiece hasNames c cs).2.length ≤ cs.length := by
  unfold nextPiece
  split
  all_goals try exact Nat.le_refl _
  all_goals try exact length_dropLazy_le cs
  · exact length_opening_le cs
  · split
    next least most rest hinterval =>
        exact Nat.le_trans (length_dropLazy_le rest) (length_of_interval? hinterval)
    next => exact Nat.le_refl _
  · split
    next rest hclass => exact length_of_afterClass hclass
    next => simp
  · exact length_escape_le hasNames cs

/-- The pieces of a text, from left to right. -/
def pieces (hasNames : Bool) : List Char → List Piece
  | [] => []
  | c :: cs => (nextPiece hasNames c cs).1 :: pieces hasNames (nextPiece hasNames c cs).2
termination_by cs => cs.length
decreasing_by exact Nat.lt_succ_of_le (length_nextPiece_le hasNames c cs)

end WindowScript.Pattern
