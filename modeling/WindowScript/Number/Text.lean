/-
# Number text

A number is written with the fewest digits that read back as the same number,
and among those with the digits nearest to it. Numbers from `10 ^ -7` up to
`10 ^ 21` are written out by position, the others with an exponent.
-/

import WindowScript.Number.Basic
import WindowScript.Number.Decimal

namespace WindowScript.Number

/-- The position of the decimal point: the power of ten just above `num / den`,
for positive `num`. -/
def pointPosition (num den : Nat) : Int :=
  if den ≤ num then (digits (num / den)).length
  else 1 - ((digits ((den + num - 1) / num - 1)).length : Int)

/-- The exact ratio of `candidate * 10 ^ exponent`. -/
def decimalRatio (candidate : Nat) (exponent : Int) : Nat × Nat :=
  if 0 ≤ exponent then (candidate * tenTo exponent.toNat, 1)
  else (candidate, tenTo (-exponent).toNat)

/-- Whether `candidate * 10 ^ exponent` rounds to the same number as
`num / den`. -/
def readsBack (num den candidate : Nat) (exponent : Int) : Bool :=
  let ratio := decimalRatio candidate exponent
  ofRatio false ratio.1 ratio.2 = ofRatio false num den

/-- The decimal with `count` digits, point at `point`, that is nearest to
`num / den` among those that read back. Of two equally near ones it is the one
whose last digit is even. -/
def digitsOfCount? (num den : Nat) (point : Int) (count : Nat) : Option Nat :=
  let exponent := point - count
  let scale := decimalRatio 1 exponent
  let low := num * scale.2 / (den * scale.1)
  let near := roundHalfEven (num * scale.2) (den * scale.1)
  let far := if near = low then low + 1 else low
  if readsBack num den near exponent then some near
  else if readsBack num den far exponent then some far
  else none

/-- The first decimal that reads back, with its exponent, among those of `count`
digits and up to `more` digits more. Seventeen digits always read back. -/
def searchDigits (num den : Nat) (point : Int) : Nat → Nat → Nat × Int
  | 0, _ => (num / den, 0)
  | more + 1, count =>
      match digitsOfCount? num den point count with
      | some value => (value, point - count)
      | none => searchDigits num den point more (count + 1)

/-- Drop the zeros at the end of a list of digits. -/
def dropZeros (ds : List Char) : List Char := (ds.reverse.dropWhile (· = '0')).reverse

/-- The fewest digits that read back as `num / den`, and where their decimal
point stands. Rounding up to a power of ten moves the point by one. -/
def shortest (num den : Nat) : List Char × Int :=
  let found := searchDigits num den (pointPosition num den) 17 1
  let ds := digits found.1
  (dropZeros ds, found.2 + ds.length)

/-- Write digits with the decimal point at `point`: by position for points from
-5 to 21, otherwise with an exponent. -/
def place (ds : List Char) (point : Int) : List Char :=
  let count : Int := ds.length
  if count ≤ point ∧ point ≤ 21 then ds ++ List.replicate (point - count).toNat '0'
  else if 0 < point ∧ point ≤ 21 then ds.take point.toNat ++ '.' :: ds.drop point.toNat
  else if -6 < point ∧ point ≤ 0 then '0' :: '.' :: List.replicate (-point).toNat '0' ++ ds
  else
    let sign := if point ≤ 0 then '-' else '+'
    let exponent := 'e' :: sign :: digits (point - 1).natAbs
    match ds with
    | [] => exponent
    | [d] => d :: exponent
    | d :: more => d :: '.' :: more ++ exponent

/-- Text of the positive number `num / den`. -/
def positiveText (num den : Nat) : String :=
  String.ofList (place (shortest num den).1 (shortest num den).2)

/-- Put a minus sign before the text of a negative number. -/
def withSign (negative : Bool) (text : String) : String :=
  if negative then "-" ++ text else text

/-- The text of a number. An integer below `2 ^ 53` is its decimal digits. -/
def text : Number → String
  | .integer n =>
      if n.natAbs < twoTo 53 then decimalInt n
      else withSign (decide (n < 0)) (positiveText n.natAbs 1)
  | .fraction negative n k => withSign negative (positiveText n (twoTo k))
  | .infinite negative => withSign negative "Infinity"

/-- The text with one decimal place, for numbers of at least one: the exact
value rounded, a half going up. From `10 ^ 21` on it is the ordinary text. -/
def onePlace (x : Number) : String :=
  if x.below (tenTo 21) then
    match x with
    | .integer n => decimalInt n ++ ".0"
    | .fraction negative n k =>
        let tenths := (20 * n + twoTo k) / (2 * twoTo k)
        withSign negative (decimal (tenths / 10) ++ "." ++ decimal (tenths % 10))
    | .infinite _ => x.text
  else x.text

end WindowScript.Number
