/-
# Sixteen-bit units

Some rules count and compare text in units of sixteen bits: a character above
U+FFFF is a pair of units, each from a range that no character has.
-/

namespace WindowScript.Text

/-- The one or two sixteen-bit units of a character. -/
def units (c : Char) : List Nat :=
  let n := c.toNat
  if n < 0x10000 then [n]
  else [0xD800 + (n - 0x10000) / 0x400, 0xDC00 + (n - 0x10000) % 0x400]

/-- First half of a pair. -/
def isHighUnit (u : Nat) : Bool := 0xD800 ≤ u && u < 0xDC00

/-- Second half of a pair. -/
def isLowUnit (u : Nat) : Bool := 0xDC00 ≤ u && u < 0xE000

/-- The code point that a pair of units stands for. -/
def pairValue (high low : Nat) : Nat :=
  0x10000 + (high - 0xD800) * 0x400 + (low - 0xDC00)

/-- The character of a unit that is not part of a pair. Half a pair has none, and
becomes a replacement character. -/
def ofUnit (u : Nat) : Char :=
  if isHighUnit u || isLowUnit u then '�' else Char.ofNat u

/-- The characters that a sequence of units stands for. -/
def ofUnits : List Nat → List Char
  | [] => []
  | [u] => [ofUnit u]
  | u :: v :: rest =>
      if isHighUnit u && isLowUnit v then Char.ofNat (pairValue u v) :: ofUnits rest
      else ofUnit u :: ofUnits (v :: rest)

end WindowScript.Text
