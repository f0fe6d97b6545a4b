/-
# JSON text

A value is written without any blanks, so that an event is one line. A number
that is not finite is written as null.
-/

import WindowScript.Json.Value
import WindowScript.Number.Text
import WindowScript.Text.Quoted

namespace WindowScript.Json

/-- The text of a number. -/
def numberText : Number → List Char
  | .infinite _ => "null".toList
  | n => n.text.toList

/-- A quoted string. -/
def quoted (s : String) : List Char := Text.quoteWith Text.escape s.toList

/-- Texts with commas between them. -/
def separated (texts : List (List Char)) : List Char :=
  List.intercalate [','] texts

/-- A key and the text of its value. -/
def memberText (member : String × List Char) : List Char :=
  quoted member.1 ++ ':' :: member.2

mutual

/-- The text of a value, as characters. -/
def chars : Json → List Char
  | .null => "null".toList
  | .bool b => if b then "true".toList else "false".toList
  | .number n => numberText n
  | .string s => quoted s
  | .array items => '[' :: separated (itemTexts items) ++ [']']
  | .object members =>
      '\x7b' :: separated ((arrange (memberTexts members)).map memberText) ++ ['\x7d']

/-- The texts of the items of an array. -/
def itemTexts : List Json → List (List Char)
  | [] => []
  | item :: rest => chars item :: itemTexts rest

/-- The keys of an object with the texts of their values. -/
def memberTexts : List (String × Json) → List (String × List Char)
  | [] => []
  | member :: rest => (member.1, chars member.2) :: memberTexts rest

end

/-- The text of a value. -/
def text (value : Json) : String := String.ofList value.chars

end WindowScript.Json
