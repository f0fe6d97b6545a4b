/-
# Dates

Dates of the Gregorian calendar, extended without limit into the past and the
future, with a year zero. A day has a number, counted from 1970-01-01. Years are
counted from March inside the computation, so that a leap day is the last day of
its year.
-/

namespace WindowScript.Calendar

/-- A date of the Gregorian calendar. -/
structure Date where
  year : Int
  month : Nat
  day : Nat
  deriving DecidableEq, Repr

/-- Days from the first of March of the year zero to the first of January
1970. -/
def epochOffset : Int := 719468

/-- Position of a day inside a cycle of four hundred years. -/
structure CycleDay where
  century : Nat
  leapCycle : Nat
  year : Nat
  day : Nat

/-- Split a day of the four-hundred-year cycle into centuries, cycles of four
years, years and days. The last century and the last year of a leap cycle have
one day more, which does not start another one. -/
def CycleDay.ofDay (day : Nat) : CycleDay :=
  let century := min 3 (day / 36524)
  let inCentury := day - century * 36524
  let leapCycle := inCentury / 1461
  let inLeapCycle := inCentury % 1461
  let year := min 3 (inLeapCycle / 365)
  { century, leapCycle, year, day := inLeapCycle - year * 365 }

/-- The date of a day number. -/
def Date.ofDayNumber (n : Int) : Date :=
  let shifted := n + epochOffset
  let cycle := CycleDay.ofDay (shifted % 146097).toNat
  let year := 400 * (shifted / 146097) + 100 * cycle.century + 4 * cycle.leapCycle + cycle.year
  let month := (5 * cycle.day + 2) / 153
  let day := cycle.day - (153 * month + 2) / 5 + 1
  if month < 10 then ⟨year, month + 3, day⟩ else ⟨year + 1, month - 9, day⟩

end WindowScript.Calendar
