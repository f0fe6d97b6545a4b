/-
# Script ids

The compositor answers a load request with a tuple that holds the id of the
script, such as `(3,)` or `(int32 3,)`. The first such tuple in the reply counts,
whatever stands around it. Ids are double-precision numbers: below `2 ^ 53` they
are exact.
-/

import WindowScript.Number.Text
import WindowScript.Text.Head

namespace WindowScript.Compositor

/-- Digits and the end of a tuple. -/
def tupleDigits? (negative : Bool) (cs : List Char) : Option Int :=
  let ds := cs.takeWhile Char.isDigit
  match cs.dropWhile Char.isDigit with
  | ',' :: ')' :: _ =>
      if ds = [] then none else some (Number.signed negative (Number.valueOfDigits ds))
  | _ => none

/-- An optional minus sign, digits and the end of a tuple. -/
def tupleInt? : List Char → Option Int
  | '-' :: rest => tupleDigits? true rest
  | cs => tupleDigits? false cs

/-- The integer of a tuple, read after its opening parenthesis. -/
def tuple? (cs : List Char) : Option Int :=
  match Text.after? "int32 ".toList cs with
  | some rest => tupleInt? rest
  | none => tupleInt? cs

/-- The integer of the leftmost tuple in a text. -/
def firstTuple? : List Char → Option Int
  | [] => none
  | c :: cs =>
      if c = '(' then
        match tuple? cs with
        | some n => some n
        | none => firstTuple? cs
      else firstTuple? cs

/-- The script id in a reply. -/
def scriptId? (reply : String) : Option Number := (firstTuple? reply.toList).map Number.ofInt

/-- The object path of the scripting manager. -/
def scriptingPath : String := "/Scripting"

/-- The object path of a loaded script. -/
def scriptPath (id : Number) : String := scriptingPath ++ "/Script" ++ id.text

end WindowScript.Compositor
