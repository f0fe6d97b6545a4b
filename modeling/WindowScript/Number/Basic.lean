/-
# Double-precision numbers

Durations, timeouts and script ids are double-precision numbers: a significand
of 53 bits and a bounded exponent. They are kept exactly, in one form each: an
integer, an odd numerator over a power of two, or an infinity. Rounding is to
the nearest number, a tie going to the even significand, and is computed on
natural numbers only. There is no not-a-number here: the one operation that can
fail, adding opposite infinities, has no result.
-/

namespace WindowScript

/-- A double-precision number in its exact form. A `fraction` has an odd
numerator and a positive shift, and stands for `numerator / 2 ^ shift`. -/
inductive Number
  | integer (value : Int)
  | fraction (negative : Bool) (numerator shift : Nat)
  | infinite (negative : Bool)
  deriving DecidableEq, Repr

namespace Number

/-- A power of two. -/
def twoTo (k : Nat) : Nat := Nat.pow 2 k

/-- A power of ten. -/
def tenTo (k : Nat) : Nat := Nat.pow 10 k

/-- The quotient rounded to a natural number, a half going to the even one. -/
def roundHalfEven (num den : Nat) : Nat :=
  let q := num / den
  let r := num % den
  if 2 * r < den then q
  else if den < 2 * r then q + 1
  else if q % 2 = 0 then q else q + 1

/-- Whether `num / den` is below `2 ^ exponent`. -/
def ratioBelow (num den : Nat) (exponent : Int) : Bool :=
  if 0 ≤ exponent then num < den * twoTo exponent.toNat
  else num * twoTo (-exponent).toNat < den

/-- The exponent of the last significand bit that is kept for `num / den`. It is
the least one that leaves room for 53 bits, and at least that of the smallest
number. -/
def lastBit (num den : Nat) : Int :=
  let upper : Int := (num.log2 : Int) - den.log2 - 52
  let tight := if ratioBelow num den (upper + 52) then upper - 1 else upper
  max tight (-1074)

/-- Cancel factors of two, at most `shift` of them. -/
def cancel : Nat → Nat → Nat × Nat
  | 0, numerator => (numerator, 0)
  | shift + 1, numerator =>
      if numerator % 2 = 0 then cancel shift (numerator / 2) else (numerator, shift + 1)

/-- Give a natural number a sign. -/
def signed (negative : Bool) (n : Nat) : Int := if negative then -(n : Int) else n

/-- The number `numerator / 2 ^ shift` in its exact form. -/
def ofBinary (negative : Bool) (numerator shift : Nat) : Number :=
  match cancel shift numerator with
  | (n, 0) => .integer (signed negative n)
  | (n, k + 1) => .fraction negative n (k + 1)

/-- The number nearest to `num / den`, and an infinity beyond the largest one. -/
def ofRatio (negative : Bool) (num den : Nat) : Number :=
  if num = 0 then .integer 0
  else
    let e := lastBit num den
    if 0 ≤ e then
      let value := roundHalfEven num (den * twoTo e.toNat) * twoTo e.toNat
      if twoTo 1024 ≤ value then .infinite negative
      else .integer (signed negative value)
    else ofBinary negative (roundHalfEven (num * twoTo (-e).toNat) den) (-e).toNat

/-- The number nearest to an integer. Integers below `2 ^ 53` are exact. -/
def ofInt (n : Int) : Number :=
  if n.natAbs < twoTo 53 then .integer n else ofRatio (decide (n < 0)) n.natAbs 1

/-- The number nearest to `mantissa * 10 ^ exponent`. -/
def ofDecimal (negative : Bool) (mantissa : Nat) (exponent : Int) : Number :=
  if 0 ≤ exponent then ofInt (signed negative (mantissa * tenTo exponent.toNat))
  else ofRatio negative mantissa (tenTo (-exponent).toNat)

/-- The integer `n` of a number `n / 2 ^ k`, with its shift `k`. An infinity is
not of this form and counts as zero. -/
def scaled : Number → Int × Nat
  | .integer n => (n, 0)
  | .fraction negative n k => (signed negative n, k)
  | .infinite _ => (0, 0)

/-- The number nearest to a sum. Opposite infinities have no sum. -/
def add? (x y : Number) : Option Number :=
  match x, y with
  | .integer m, .integer n => some (ofInt (m + n))
  | .infinite s, .infinite t => if s = t then some (.infinite s) else none
  | .infinite s, _ => some (.infinite s)
  | _, .infinite t => some (.infinite t)
  | _, _ =>
      let (m, i) := x.scaled
      let (n, j) := y.scaled
      let sum := m * (twoTo j : Int) + n * (twoTo i : Int)
      some (ofRatio (decide (sum < 0)) sum.natAbs (twoTo (i + j)))

/-- Divide by a positive natural number and round. -/
def divNat (x : Number) (d : Nat) : Number :=
  match x with
  | .integer n => ofRatio (decide (n < 0)) n.natAbs d
  | .fraction negative n k => ofRatio negative n (twoTo k * d)
  | .infinite negative => .infinite negative

/-- The least integer that is not below the number. -/
def ceil : Number → Number
  | .integer n => .integer n
  | .fraction negative n k =>
      if negative then .integer (-((n / twoTo k : Nat) : Int))
      else .integer (n / twoTo k + 1 : Nat)
  | .infinite negative => .infinite negative

/-- Whether the number is below an integer. -/
def below (x : Number) (bound : Int) : Bool :=
  match x with
  | .integer n => n < bound
  | .fraction negative n k => signed negative n < bound * (twoTo k : Int)
  | .infinite negative => negative

/-- The integer part, toward zero. An infinity has none. -/
def truncate? : Number → Option Int
  | .integer n => some n
  | .fraction negative n k => some (signed negative (n / twoTo k))
  | .infinite _ => none

/-- The integer that a number is, if its magnitude is below `2 ^ 53`. -/
def safeInteger? : Number → Option Int
  | .integer n => if n.natAbs < twoTo 53 then some n else none
  | .fraction _ _ _ => none
  | .infinite _ => none

end Number

end WindowScript
