/-
# String literals of scripts

User text reaches a script only inside string literals. A literal is a quoted
text in which the two line separators are escaped as well, since older script
engines end a line at them.
-/

import WindowScript.Text.Quoted

namespace WindowScript.Script

/-- The escape of a character in a string literal. -/
def literalEscape (c : Char) : List Char :=
  if c.toNat = 0x2028 ∨ c.toNat = 0x2029 then Text.hexEscape c.toNat else Text.escape c

/-- The string literal that denotes a text. -/
def literal (value : String) : String :=
  String.ofList (Text.quoteWith literalEscape value.toList)

end WindowScript.Script
