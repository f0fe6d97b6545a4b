/-
# Faults of search patterns

A search term is a pattern. The reasons for which one is refused are listed here,
with the words in which the user reads them.
-/

namespace WindowScript.Pattern

/-- What can be wrong with a pattern. -/
inductive Fault
  | unterminatedGroup
  | unmatchedClosing
  | invalidGroup
  | nothingToRepeat
  | countsOutOfOrder
  | invalidQuantifier
  | escapeAtEnd
  | invalidEscape
  | invalidUnicodeEscape
  | unterminatedClass
  | rangeOutOfOrder
  | invalidName
  | duplicateName
  | invalidReference
  | unknownReference
  deriving DecidableEq, Repr

/-- The reason shown for a fault. -/
def Fault.reason : Fault → String
  | .unterminatedGroup => "Unterminated group"
  | .unmatchedClosing => "Unmatched ')'"
  | .invalidGroup => "Invalid group"
  | .nothingToRepeat => "Nothing to repeat"
  | .countsOutOfOrder => "numbers out of order in \x7b\x7d quantifier"
  | .invalidQuantifier => "Invalid quantifier"
  | .escapeAtEnd => "\\ at end of pattern"
  | .invalidEscape => "Invalid escape"
  | .invalidUnicodeEscape => "Invalid Unicode escape"
  | .unterminatedClass => "Unterminated character class"
  | .rangeOutOfOrder => "Range out of order in character class"
  | .invalidName => "Invalid capture group name"
  | .duplicateName => "Duplicate capture group name"
  | .invalidReference => "Invalid named reference"
  | .unknownReference => "Invalid named capture referenced"

end WindowScript.Pattern
