/-
# Blank characters

Replies of helper programs are shown without the blanks around them. Blank means
one fixed set of twenty-five characters: the ASCII blanks, the Unicode space
separators, the two line separators and the byte order mark. A next-line
character (U+0085) and a zero-width space (U+200B) are not blank.
-/

namespace WindowScript.Text

/-- Membership in the set of blank characters. -/
def isBlank (c : Char) : Bool :=
  let n := c.toNat
  (0x09 ≤ n && n ≤ 0x0D) || n == 0x20 || n == 0xA0 || n == 0x1680 ||
    (0x2000 ≤ n && n ≤ 0x200A) || n == 0x2028 || n == 0x2029 || n == 0x202F ||
    n == 0x205F || n == 0x3000 || n == 0xFEFF

/-- Drop the blanks at the end. -/
def trimEnd (s : String) : String :=
  String.ofList (s.toList.reverse.dropWhile isBlank).reverse

/-- Drop the blanks at both ends. -/
def trim (s : String) : String :=
  trimEnd (String.ofList (s.toList.dropWhile isBlank))

end WindowScript.Text
