/-
# Identifiers

The names that a pattern may give to its groups: letters of any script, digits
and marks after the first character, a dollar sign or an underscore anywhere.
-/

import WindowScript.Text.Identifier.Start
import WindowScript.Text.Identifier.Continue

namespace WindowScript.Text

/-- A code point that lies in one of the ranges. -/
def inRanges (ranges : List (Nat × Nat)) (code : Nat) : Bool :=
  ranges.any fun range => range.1 ≤ code && code ≤ range.2

/-- Code points that may start an identifier. -/
def isIdentifierStart (code : Nat) : Bool :=
  code == '$'.toNat || code == '_'.toNat || inRanges IdentifierStart.ranges code

/-- Code points that may stand after the start of an identifier. The two joiners
are included, since some scripts need them inside a word. -/
def isIdentifierPart (code : Nat) : Bool :=
  isIdentifierStart code || code == 0x200C || code == 0x200D ||
    inRanges IdentifierContinue.ranges code

end WindowScript.Text
