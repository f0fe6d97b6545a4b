/-
# Instants

The clock counts milliseconds since the start of 1970, in double precision and
with fractions. It names the instant of its whole milliseconds, but only within a
hundred million days of the start. Outside that range, or with no count at all,
there is no instant, and its fields have no value.
-/

import WindowScript.Calendar.Date
import WindowScript.Number.Basic
import WindowScript.Number.Decimal

namespace WindowScript.Calendar

/-- Milliseconds of a day. -/
def dayMillis : Int := 86400000

/-- The largest distance of an instant from the epoch, in milliseconds. -/
def maxMillis : Int := 8640000000000000

/-- An instant within the range of the clock. -/
structure Instant where
  millis : Int
  inRange : -maxMillis ≤ millis ∧ millis ≤ maxMillis
  deriving DecidableEq, Repr

/-- The instant that a count of milliseconds names. -/
def Instant.ofMillis? (millis : Int) : Option Instant :=
  if h : -maxMillis ≤ millis ∧ millis ≤ maxMillis then some ⟨millis, h⟩ else none

/-- A clock: a count of milliseconds, or none. -/
abbrev Clock := Option Number

/-- What a clock names at this moment. -/
def Clock.instant? (clock : Clock) : Option Instant :=
  clock.bind fun reading => reading.truncate?.bind Instant.ofMillis?

/-- Move a clock. -/
def Clock.advance (clock : Clock) (millis : Number) : Clock := clock.bind (·.add? millis)

/-- The span from an instant to what a clock shows. -/
def Clock.since? (clock : Clock) (instant : Option Instant) : Option Number :=
  match instant with
  | some instant => clock.advance (.integer (-instant.millis))
  | none => none

/-- Date and time of day. -/
structure Moment where
  date : Date
  hour : Nat
  minute : Nat
  second : Nat
  millisecond : Nat
  deriving DecidableEq, Repr

/-- The date and time of an instant, in universal time. -/
def Instant.moment (instant : Instant) : Moment :=
  let rest := (instant.millis % dayMillis).toNat
  { date := Date.ofDayNumber (instant.millis / dayMillis)
    hour := rest / 3600000
    minute := rest / 60000 % 60
    second := rest / 1000 % 60
    millisecond := rest % 1000 }

/-- What is printed for a field of no instant. -/
def noField : String := "NaN"

/-- A field of an instant filled up to a width, or the text for no instant. -/
def field (width : Nat) (get : Moment → Nat) (instant : Option Instant) : String :=
  match instant with
  | some instant => Number.padded width (get instant.moment)
  | none => noField

/-- Time of day to the second. -/
def clockText (instant : Option Instant) : String :=
  field 2 Moment.hour instant ++ ":" ++ field 2 Moment.minute instant ++ ":" ++
    field 2 Moment.second instant

/-- Time of day to the millisecond. -/
def timestamp (instant : Option Instant) : String :=
  clockText instant ++ "." ++ field 3 Moment.millisecond instant

/-- The year in plain decimal digits. -/
def yearText (instant : Option Instant) : String :=
  match instant with
  | some instant => Number.decimalInt instant.moment.date.year
  | none => noField

/-- Date and time of day as the journal reader takes them. -/
def journalTime (instant : Option Instant) : String :=
  yearText instant ++ "-" ++ field 2 (fun m => m.date.month) instant ++ "-" ++
    field 2 (fun m => m.date.day) instant ++ " " ++ clockText instant

/-- A year of four digits, or with a sign and six digits outside 0 to 9999. -/
def isoYear (year : Int) : String :=
  if 0 ≤ year ∧ year ≤ 9999 then Number.padded 4 year.natAbs
  else (if year < 0 then "-" else "+") ++ Number.padded 6 year.natAbs

/-- Date and time of an instant in the international format. -/
def Instant.iso (instant : Instant) : String :=
  let date := instant.moment.date
  isoYear date.year ++ "-" ++ Number.padded 2 date.month ++ "-" ++
    Number.padded 2 date.day ++ "T" ++ timestamp (some instant) ++ "Z"

end WindowScript.Calendar
