/-
# Texts in messages

A text that a message tells stands between quotes: single ones, unless it holds these
itself and no double ones, or neither double ones nor what back quotes would give a
meaning. Control characters and backslashes are escaped, and single quotes between
single quotes. A long text is broken behind its line feeds, and what is too long for a
message is cut. Lengths count sixteen-bit units.
-/

import WindowScript.Text.Units

namespace WindowScript.Text

/-- Whether a text opens a hole for a value: a dollar sign before a brace. -/
def opensHole : List Char → Bool
  | [] => false
  | '$' :: '\x7b' :: _ => true
  | _ :: rest => opensHole rest

/-- The quotes around a text in a message. -/
def shownQuote (cs : List Char) : Char :=
  if !cs.contains '\'' then '\''
  else if !cs.contains '"' then '"'
  else if !cs.contains '\x60' && !opensHole cs then '\x60'
  else '\''

/-- A character as it stands between quotes in a message. -/
def shownChar (quote c : Char) : List Char :=
  match c with
  | '\'' => if quote = '\'' then ['\\', '\''] else ['\'']
  | '\\' => ['\\', '\\']
  | '\x08' => ['\\', 'b']
  | '\t' => ['\\', 't']
  | '\n' => ['\\', 'n']
  | '\x0c' => ['\\', 'f']
  | '\r' => ['\\', 'r']
  | _ =>
      if c.toNat < 0x20 ∨ 0x7f ≤ c.toNat ∧ c.toNat < 0xa0 then
        '\\' :: 'x' :: [c.toNat / 16, c.toNat % 16].map fun n => (Nat.digitChar n).toUpper
      else [c]

/-- A text between its quotes. -/
def shownLine (cs : List Char) : List Char :=
  shownQuote cs :: cs.flatMap (shownChar (shownQuote cs)) ++ [shownQuote cs]

/-- The pieces of a text that end behind its line feeds. -/
def piecesByFeeds : List Char → List (List Char)
  | [] => []
  | c :: rest =>
      if c = '\n' then [c] :: piecesByFeeds rest
      else match piecesByFeeds rest with
        | [] => [[c]]
        | piece :: pieces => (c :: piece) :: pieces

/-- The longest text that is not broken. -/
def maxUnbroken : Nat := 124

/-- The most that a message shows of a text. -/
def maxShown : Nat := 128

/-- A text as a message shows it. -/
def shown (text : String) : String :=
  let cs := text.toList
  let quoted :=
    if maxUnbroken < (cs.flatMap units).length then
      List.intercalate " +\n  ".toList ((piecesByFeeds cs).map shownLine)
    else shownLine cs
  let found := quoted.flatMap units
  if maxShown < found.length then String.ofList (ofUnits (found.take maxShown)) ++ "..."
  else String.ofList quoted

end WindowScript.Text
