/-
# JSON values

The values that an event of the run log may carry. An object is a list of members
in the order in which they were given; where a key is given twice, the member
keeps its first place and takes the last value.
-/

import WindowScript.Number.Basic
import WindowScript.Number.Decimal

namespace WindowScript

/-- A JSON value. -/
inductive Json
  | null
  | bool (value : Bool)
  | number (value : Number)
  | string (value : String)
  | array (items : List Json)
  | object (members : List (String × Json))
  deriving Repr

namespace Json

/-- A natural number as a value. -/
def ofNat (n : Nat) : Json := .number (.ofInt n)

/-- A text as a value, and null for no text. -/
def ofString? : Option String → Json
  | some s => .string s
  | none => .null

/-- Give a key a value. A known key keeps its place. -/
def put {α : Type} (key : String) (value : α) : List (String × α) → List (String × α)
  | [] => [(key, value)]
  | member :: rest =>
      if member.1 = key then (key, value) :: rest else member :: put key value rest

/-- One member for each key, at the key's first place and with its last value. -/
def collapse {α : Type} (pairs : List (String × α)) : List (String × α) :=
  pairs.foldl (fun members pair => put pair.1 pair.2 members) []

/-- The largest key that counts as an array index. -/
def maxIndex : Nat := 4294967294

/-- The array index that a key denotes: canonical decimal digits within bounds. -/
def index? (key : String) : Option Nat :=
  let n := Number.valueOfDigits key.toList
  if key.toList.all Char.isDigit ∧ n ≤ maxIndex ∧ Number.digits n = key.toList then some n
  else none

/-- The members of an object in the order in which they are written: array
indices first, from small to large, then the other keys. -/
def arrange {α : Type} (pairs : List (String × α)) : List (String × α) :=
  let members := collapse pairs
  let indexed := members.filterMap fun member =>
    (index? member.1).map fun n => (n, member)
  (indexed.mergeSort fun a b => a.1 ≤ b.1).map Prod.snd ++
    members.filter fun member => (index? member.1).isNone

/-- The value of a key, which is the last one given. -/
def member? (key : String) : Json → Option Json
  | .object members => (members.reverse.find? fun member => member.1 = key).map Prod.snd
  | _ => none

end Json

end WindowScript
