/-
# The Gregorian calendar

The rules of the calendar are said on their own: which years are leap years, how long
a month is, and which date follows a date. Days are counted from the first of January
1970 in both directions, one date after the other. The computation of dates goes
another way: it cuts a day number into cycles of four hundred years, centuries, cycles
of four years and years that start in March. It gives the date that counting leads to,
for every day number.

What joins the two is a closed formula for the number of a date. The next date has the
next number, different dates have different numbers, and the computed date has the
number that it was computed from.
-/

import Mathlib.Tactic.IntervalCases
import WindowScript.Calendar.Date

namespace WindowScript.Calendar

/-! ## The rules -/

/-- A year that 4 divides, but of the centuries only those that 400 divides. -/
def isLeap (year : Int) : Bool := year % 4 = 0 && (year % 100 ≠ 0 || year % 400 = 0)

/-- The number of days of a month. -/
def monthLength (year : Int) (month : Nat) : Nat :=
  if month = 2 then (if isLeap year then 29 else 28)
  else if month = 4 ∨ month = 6 ∨ month = 9 ∨ month = 11 then 30
  else 31

namespace Date

/-- A date that the calendar has. -/
structure IsReal (date : Date) : Prop where
  month_pos : 1 ≤ date.month
  month_le : date.month ≤ 12
  day_pos : 1 ≤ date.day
  day_le : date.day ≤ monthLength date.year date.month

/-- The date that follows a date. -/
def next (date : Date) : Date :=
  if date.day < monthLength date.year date.month then ⟨date.year, date.month, date.day + 1⟩
  else if date.month < 12 then ⟨date.year, date.month + 1, 1⟩
  else ⟨date.year + 1, 1, 1⟩

/-- The number of days from the first of January 1970 to a date, by counting. It is
negative for earlier dates. -/
inductive IsDay : Date → Int → Prop
  | epoch : IsDay ⟨1970, 1, 1⟩ 0
  | next {date : Date} {n : Int} (hday : IsDay date n) : IsDay date.next (n + 1)
  | previous {date : Date} {n : Int} (hreal : date.IsReal) (hday : IsDay date.next n) :
      IsDay date (n - 1)

end Date

/-! ## The number of a date -/

/-- Days from the start of 1970 to the start of a year. -/
def yearStart (year : Int) : Int :=
  365 * (year - 1970) + (year - 1969) / 4 - (year - 1901) / 100 + (year - 1601) / 400

/-- Days from the start of a year to the start of a month. -/
def monthStart (year : Int) (month : Nat) : Nat :=
  ((List.range (month - 1)).map fun earlier => monthLength year (earlier + 1)).sum

/-- The number of a date. -/
def Date.number (date : Date) : Int :=
  yearStart date.year + monthStart date.year date.month + date.day - 1

theorem isLeap_iff {year : Int} :
    isLeap year = true ↔ year % 4 = 0 ∧ (year % 100 ≠ 0 ∨ year % 400 = 0) := by
  simp [isLeap]

theorem monthStart_succ (year : Int) {month : Nat} (hmonth : 1 ≤ month) :
    monthStart year (month + 1) = monthStart year month + monthLength year month := by
  obtain ⟨month, rfl⟩ := Nat.exists_eq_add_of_le' hmonth
  simp [monthStart, List.range_succ]

/-- A year is as long as its months. -/
theorem yearStart_succ (year : Int) :
    yearStart (year + 1) = yearStart year + monthStart year 13 := by
  have hlength : monthStart year 13 = if isLeap year then 366 else 365 := by
    cases hleap : isLeap year <;> simp [monthStart, monthLength, hleap, List.range_succ]
  rw [hlength, yearStart, yearStart]
  split
  next hleap =>
      rw [isLeap_iff] at hleap
      omega
  next hleap =>
      rw [isLeap_iff] at hleap
      omega

theorem yearStart_mono {year later : Int} (hle : year ≤ later) :
    yearStart year ≤ yearStart later := by
  simp only [yearStart]
  omega

theorem monthStart_mono (year : Int) {month later : Nat} (hmonth : 1 ≤ month)
    (hle : month ≤ later) : monthStart year month ≤ monthStart year later := by
  induction hle with
  | refl => exact Nat.le_refl _
  | @step later hle ih =>
      rw [Nat.succ_eq_add_one, monthStart_succ year (Nat.le_trans hmonth hle)]
      exact Nat.le_add_right_of_le ih

theorem monthLength_bounds (year : Int) (month : Nat) :
    1 ≤ monthLength year month ∧ monthLength year month ≤ 31 := by
  unfold monthLength
  split
  · split <;> decide
  · split <;> decide

namespace Date

theorem IsReal.month_lt_and_day_lt {date : Date} (hreal : date.IsReal) :
    date.month < 100 ∧ date.day < 100 := by
  have hmonth := hreal.month_le
  have hday := hreal.day_le
  have hlength := (monthLength_bounds date.year date.month).2
  omega

theorem IsReal.next {date : Date} (hreal : date.IsReal) : date.next.IsReal := by
  unfold Date.next
  split
  next hday => exact ⟨hreal.month_pos, hreal.month_le, Nat.le_add_left 1 _, hday⟩
  next hday =>
      split
      next hmonth =>
          exact ⟨Nat.le_add_left 1 _, hmonth, Nat.le_refl 1, (monthLength_bounds _ _).1⟩
      next hmonth =>
          exact ⟨Nat.le_refl 1, Nat.le_add_left 1 11, Nat.le_refl 1, (monthLength_bounds _ _).1⟩

/-- The next date has the next number. -/
theorem IsReal.number_next {date : Date} (hreal : date.IsReal) :
    date.next.number = date.number + 1 := by
  have hmonth := monthStart_succ date.year hreal.month_pos
  have hle := hreal.day_le
  unfold Date.next
  split
  · simp only [number]
    omega
  next hday =>
      split
      · simp only [number]
        omega
      next hlast =>
          -- At the end of December the lengths of the months have to add up to the year.
          have htwelve : date.month + 1 = 13 :=
            congrArg (· + 1) (Nat.le_antisymm hreal.month_le (Nat.le_of_not_lt hlast))
          have hyear := yearStart_succ date.year
          have hstart : monthStart (date.year + 1) 1 = 0 := rfl
          rw [htwelve] at hmonth
          simp only [number]
          omega

theorem IsDay.isReal {date : Date} {n : Int} (hday : IsDay date n) : date.IsReal := by
  induction hday with
  | epoch => exact ⟨by decide, by decide, by decide, by decide⟩
  | next _ ih => exact ih.next
  | previous hreal _ _ => exact hreal

/-- Counting leads to the number of a date. -/
theorem IsDay.number_eq {date : Date} {n : Int} (hday : IsDay date n) : date.number = n := by
  induction hday with
  | epoch => decide
  | next hday ih => rw [hday.isReal.number_next, ih]
  | previous hreal _ ih =>
      rw [hreal.number_next] at ih
      omega

/-- A date lies before the dates of all later months and years. -/
theorem IsReal.number_lt_of_month_lt {date later : Date} (hreal : date.IsReal)
    (hlater : later.IsReal) (hyear : date.year = later.year) (hmonth : date.month < later.month) :
    date.number < later.number := by
  have hstart := monthStart_succ date.year hreal.month_pos
  have hmono := monthStart_mono date.year (Nat.le_add_left 1 date.month) hmonth
  have hday := hreal.day_le
  have hlaterDay := hlater.day_pos
  simp only [number, ← hyear]
  omega

theorem IsReal.number_lt_of_year_lt {date later : Date} (hreal : date.IsReal)
    (hlater : later.IsReal) (hyear : date.year < later.year) : date.number < later.number := by
  have hstart := monthStart_succ date.year hreal.month_pos
  have hmono : monthStart date.year (date.month + 1) ≤ monthStart date.year 13 :=
    monthStart_mono date.year (Nat.le_add_left 1 date.month) (Nat.succ_le_succ hreal.month_le)
  have hnext := yearStart_succ date.year
  have hyears := yearStart_mono (Int.add_one_le_of_lt hyear)
  have hday := hreal.day_le
  have hlaterDay := hlater.day_pos
  simp only [number]
  omega

/-- Different dates have different numbers. -/
theorem IsReal.eq_of_number_eq {date other : Date} (hreal : date.IsReal) (hother : other.IsReal)
    (hnumber : date.number = other.number) : date = other := by
  have hyear : date.year = other.year := by
    rcases Int.lt_trichotomy date.year other.year with hlt | heq | hgt
    · exact absurd (hreal.number_lt_of_year_lt hother hlt) (by omega)
    · exact heq
    · exact absurd (hother.number_lt_of_year_lt hreal hgt) (by omega)
  have hmonth : date.month = other.month := by
    rcases Nat.lt_trichotomy date.month other.month with hlt | heq | hgt
    · exact absurd (hreal.number_lt_of_month_lt hother hyear hlt) (by omega)
    · exact heq
    · exact absurd (hother.number_lt_of_month_lt hreal hyear.symm hgt) (by omega)
  have hday : date.day = other.day := by
    simp only [number, hyear, hmonth] at hnumber
    omega
  cases date
  cases other
  rw [Date.mk.injEq]
  exact ⟨hyear, hmonth, hday⟩

end Date

/-! ## The computation -/

/-- The date of a day of a year that starts in March. -/
def marchDate (year : Int) (day : Nat) : Date :=
  let month := (5 * day + 2) / 153
  let dayOfMonth := day - (153 * month + 2) / 5 + 1
  if month < 10 then ⟨year, month + 3, dayOfMonth⟩ else ⟨year + 1, month - 9, dayOfMonth⟩

section

variable {month : Nat}

/-- From March on, the lengths of months have a rule that leap years do not touch. -/
theorem monthLength_march (year : Int) (hmonth : month < 10) :
    monthLength year (month + 3) + (153 * month + 2) / 5 = (153 * (month + 1) + 2) / 5 := by
  interval_cases month <;> rfl

theorem monthStart_march (year : Int) (hmonth : month ≤ 10) :
    monthStart year (month + 3) = monthStart year 3 + (153 * month + 2) / 5 := by
  induction month with
  | zero => rfl
  | succ month ih =>
      have hlength := monthLength_march year hmonth
      have hstart : monthStart year (month + 1 + 3) =
          monthStart year (month + 3) + monthLength year (month + 3) :=
        monthStart_succ year (Nat.le_add_left 1 (month + 2))
      rw [hstart, ih (Nat.le_of_succ_le hmonth), Nat.add_assoc, Nat.add_comm (_ / 5), hlength]

theorem monthStart_january (year : Int) (hmonth : 10 ≤ month) (hlast : month ≤ 11) :
    monthStart year (month - 9) + 306 = (153 * month + 2) / 5 := by
  interval_cases month <;> rfl

end

theorem yearStart_march (year : Int) :
    yearStart (year + 1) =
      365 * year + year / 4 - year / 100 + year / 400 + 306 - epochOffset := by
  simp only [yearStart, epochOffset]
  omega

section

variable {year : Int} {day : Nat}

theorem number_marchDate (hday : day ≤ 365) :
    (marchDate year day).number =
      365 * year + year / 4 - year / 100 + year / 400 + day - epochOffset := by
  have hstart := yearStart_march year
  have hyear := yearStart_succ year
  have hlength : monthStart year 13 = monthStart year 3 + 306 :=
    monthStart_march year (Nat.le_refl 10)
  unfold marchDate
  dsimp only
  split
  next hmonth =>
      have hmarch := monthStart_march year (Nat.le_of_lt hmonth)
      simp only [Date.number]
      omega
  next hmonth =>
      have hjanuary := monthStart_january (year + 1) (Nat.le_of_not_lt hmonth) (by omega)
      simp only [Date.number]
      omega

/-- February ends a year that starts in March, and only its last day depends on the
year. -/
theorem isReal_marchDate (hday : day ≤ 365) (hlast : day = 365 → isLeap (year + 1)) :
    (marchDate year day).IsReal := by
  unfold marchDate
  dsimp only
  split
  next hmonth =>
      have hlength := monthLength_march year hmonth
      constructor <;> dsimp only <;> omega
  next hmonth =>
      have hwinter : (5 * day + 2) / 153 = 10 ∨ (5 * day + 2) / 153 = 11 := by omega
      rcases hwinter with hjanuary | hfebruary
      · have hlength : monthLength (year + 1) (10 - 9) = 31 := rfl
        rw [hjanuary]
        constructor <;> dsimp only <;> omega
      · have hlength : day ≤ 336 + monthLength (year + 1) (11 - 9) := by
          show day ≤ 336 + if isLeap (year + 1) then 29 else 28
          split
          next hleap => exact hday
          next hcommon =>
              exact Nat.le_of_lt_succ (Nat.lt_of_le_of_ne hday fun heq => hcommon (hlast heq))
        rw [hfebruary]
        constructor <;> dsimp only <;> omega

end

/-- A day of the four-hundred-year cycle, put together again. A year of 366 days is the
last one of its cycle of four years, and in the last such cycle of a century only if the
century is the last one. -/
structure CycleDay.Splits (cycle : CycleDay) (day : Nat) : Prop where
  century_le : cycle.century ≤ 3
  leapCycle_le : cycle.leapCycle ≤ 24
  year_le : cycle.year ≤ 3
  day_le : cycle.day ≤ 365
  day_eq : 36524 * cycle.century + 1461 * cycle.leapCycle + 365 * cycle.year + cycle.day = day
  last_day : cycle.day = 365 → cycle.year = 3 ∧ (cycle.leapCycle = 24 → cycle.century = 3)

theorem CycleDay.splits_ofDay {day : Nat} (hday : day < 146097) :
    (CycleDay.ofDay day).Splits day := by
  simp only [CycleDay.ofDay]
  constructor <;> dsimp only <;> omega

/-- The year of a day number, counted from March. -/
def marchYear (cycles : Int) (cycle : CycleDay) : Int :=
  400 * cycles + 100 * cycle.century + 4 * cycle.leapCycle + cycle.year

theorem isLeap_marchYear {cycles : Int} {cycle : CycleDay} {day : Nat} (hsplit : cycle.Splits day)
    (hlast : cycle.day = 365) : isLeap (marchYear cycles cycle + 1) := by
  obtain ⟨hyear, hcentury⟩ := hsplit.last_day hlast
  have hcentury_le := hsplit.century_le
  have hleapCycle_le := hsplit.leapCycle_le
  rw [isLeap_iff, marchYear, hyear]
  omega

/-- The day of a cycle has the number that it was cut from. -/
theorem number_marchYear {cycles : Int} {cycle : CycleDay} {day : Nat}
    (hsplit : cycle.Splits day) :
    (marchDate (marchYear cycles cycle) cycle.day).number =
      146097 * cycles + day - epochOffset := by
  have hcentury_le := hsplit.century_le
  have hleapCycle_le := hsplit.leapCycle_le
  have hyear_le := hsplit.year_le
  have hday_eq := hsplit.day_eq
  rw [number_marchDate hsplit.day_le, marchYear]
  omega

namespace Date

theorem ofDayNumber_eq (n : Int) :
    ofDayNumber n =
      let cycle := CycleDay.ofDay ((n + epochOffset) % 146097).toNat
      marchDate (marchYear ((n + epochOffset) / 146097) cycle) cycle.day := rfl

/-- The computed date is a date of the calendar, with the number it was computed from. -/
theorem ofDayNumber_spec (n : Int) : (ofDayNumber n).IsReal ∧ (ofDayNumber n).number = n := by
  have hlt : ((n + epochOffset) % 146097).toNat < 146097 := by omega
  have hsplit := CycleDay.splits_ofDay hlt
  rw [ofDayNumber_eq]
  constructor
  · exact isReal_marchDate hsplit.day_le (isLeap_marchYear hsplit)
  · rw [number_marchYear hsplit]
    omega

theorem ofDayNumber_add_one (n : Int) : ofDayNumber (n + 1) = (ofDayNumber n).next := by
  obtain ⟨hreal, hnumber⟩ := ofDayNumber_spec n
  obtain ⟨hlater, hlaterNumber⟩ := ofDayNumber_spec (n + 1)
  apply hlater.eq_of_number_eq hreal.next
  rw [hlaterNumber, hreal.number_next, hnumber]

/-- The computed date is the one that counting leads to. -/
theorem isDay_ofDayNumber (n : Int) : IsDay (ofDayNumber n) n := by
  induction n using Int.induction_on with
  | zero => exact .epoch
  | succ n ih =>
      rw [ofDayNumber_add_one]
      exact ih.next
  | pred n ih =>
      -- Counting backwards needs a real date that this one follows.
      apply IsDay.previous (ofDayNumber_spec _).1
      rw [← ofDayNumber_add_one, Int.sub_add_cancel]
      exact ih

end Date

end WindowScript.Calendar
