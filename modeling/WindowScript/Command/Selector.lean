/-
# Window selectors

An action takes its windows from the window stack, by position or all of them,
or names one window by its id. Positions are decimal, signed or not. They are read
as double-precision numbers, and only a number in the range where integers are exact
is a position.
-/

import WindowScript.Number.Basic
import WindowScript.Number.Decimal

namespace WindowScript

/-- Which windows an action applies to. -/
inductive Selector
  | all
  | index (position : Int)
  | window (id : String)
  deriving DecidableEq, Repr

namespace Selector

/-- The selector of an action that is given none: the first window of the
stack. -/
def first : Selector := .index 1

/-- The number nearest to what one or more digits denote, with a sign given. -/
def digitsNumber? (negative : Bool) (ds : List Char) : Option Number :=
  if ds ≠ [] ∧ ds.all Char.isDigit then
    some (Number.ofInt (Number.signed negative (Number.valueOfDigits ds)))
  else none

/-- The number nearest to what an optional sign and digits denote. -/
def signedNumber? : List Char → Option Number
  | '+' :: ds => digitsNumber? false ds
  | '-' :: ds => digitsNumber? true ds
  | ds => digitsNumber? false ds

/-- The stack position that an optional sign and digits denote. -/
def position? (cs : List Char) : Option Int := (signedNumber? cs).bind Number.safeInteger?

/-- Read a selector. A token that starts with a percent sign is a position or
the whole stack, or nothing; any other token is a window id. -/
def ofToken? (token : String) : Option Selector :=
  match token.toList with
  | ['%', '@'] => some .all
  | '%' :: rest => (position? rest).map .index
  | _ => some (.window token)

end Selector

end WindowScript
