/-
# Times in the international format

What a text denotes as a time of day, or as a date and a time of day in the international
format, is said on its own, to the millisecond. The year has four digits, or a sign and six
digits if four are not enough. Each text denotes at most one time, and the text that is
written for an instant denotes this instant, over the whole range of the clock.
-/

import WindowScript.Proofs.Journal.Since

namespace WindowScript.Calendar

open Number (Numeral SignedNumeral padded)

/-! ## Times of day -/

/-- What a text denotes as a time of day, in milliseconds from midnight. -/
inductive TimeOfDay : List Char → Int → Prop
  | intro {hours rest millis : List Char} {hour minute second millisecond : Nat}
      (hhours : hours.length = 2) (hhour : Numeral hours hour)
      (hrest : Parts [(':', minute), (':', second)] rest)
      (hmillis : millis.length = 3) (hmillisecond : Numeral millis millisecond)
      (hour_lt : hour < 24) (minute_lt : minute < 60) (second_lt : second < 60) :
      TimeOfDay (hours ++ (rest ++ '.' :: millis))
        (3600000 * hour + 60000 * minute + 1000 * second + millisecond)

theorem TimeOfDay.unique {text : List Char} {m n : Int} (hm : TimeOfDay text m)
    (hn : TimeOfDay text n) : m = n := by
  cases hm with
  | @intro hours rest millis hour minute second millisecond hhours hhour hrest _ hmillisecond =>
      generalize htext : hours ++ (rest ++ '.' :: millis) = text at hn
      cases hn with
      | @intro hours' rest' millis' hour' minute' second' millisecond' hhours' hhour' hrest' _
          hmillisecond' =>
          have hlength : rest.length = rest'.length := hrest.length_eq.trans hrest'.length_eq.symm
          obtain ⟨rfl, htail⟩ := List.append_inj htext (hhours.trans hhours'.symm)
          obtain ⟨rfl, hlast⟩ := List.append_inj htail hlength
          obtain ⟨-, rfl⟩ := List.cons.inj hlast
          have hparts := hrest.unique hrest'
          simp only [List.cons.injEq, Prod.mk.injEq, true_and, and_true] at hparts
          rw [hhour.unique hhour', hparts.1, hparts.2, hmillisecond.unique hmillisecond']

namespace Instant

variable (instant : Instant)

theorem millisecond_lt : instant.moment.millisecond < 1000 := Nat.mod_lt _ (by decide)

theorem millis_moment :
    (3600000 * instant.moment.hour + 60000 * instant.moment.minute +
      1000 * instant.moment.second + instant.moment.millisecond : Int) =
        instant.millis % 86400000 := by
  simp only [moment, dayMillis]
  omega

end Instant

/-- The time of day of an instant is written out in full. -/
theorem timeOfDay_timestamp (instant : Instant) :
    TimeOfDay (timestamp (some instant)).toList (instant.millis % 86400000) := by
  have hhour := instant.hour_lt
  have hminute := instant.minute_lt
  have hsecond := instant.second_lt
  have htext : (timestamp (some instant)).toList =
      (padded 2 instant.moment.hour).toList ++
        ((':' :: (padded 2 instant.moment.minute).toList ++
          (':' :: (padded 2 instant.moment.second).toList ++ [])) ++
            '.' :: (padded 3 instant.moment.millisecond).toList) := by
    simp [timestamp, clockText, field]
  rw [htext, ← instant.millis_moment]
  apply TimeOfDay.intro
  · exact Number.length_padded (Number.length_digits_le_two (by omega))
  · exact Number.numeral_padded 2 _
  · exact parts_cons_padded ':' (by omega) (parts_cons_padded ':' (by omega) .nil)
  · exact Number.length_padded
      ((Nat.length_toDigits_le_iff (by decide) (by decide)).mpr instant.millisecond_lt)
  · exact Number.numeral_padded 3 _
  · exact hhour
  · exact hminute
  · exact hsecond

theorem timeOfDay_timestamp_iff {instant : Instant} {n : Int} :
    TimeOfDay (timestamp (some instant)).toList n ↔ n = instant.millis % 86400000 :=
  ⟨fun hn => hn.unique (timeOfDay_timestamp instant), fun hn => hn ▸ timeOfDay_timestamp instant⟩

/-! ## Dates with times of day -/

/-- The year of a date in the international format. -/
inductive SpellsYear : List Char → Int → Prop
  | short {ds : List Char} {n : Nat} (hlength : ds.length = 4) (hds : Numeral ds n) :
      SpellsYear ds n
  | later {ds : List Char} {n : Nat} (hlength : ds.length = 6) (hds : Numeral ds n)
      (hn : 9999 < n) : SpellsYear ('+' :: ds) n
  | earlier {ds : List Char} {n : Nat} (hlength : ds.length = 6) (hds : Numeral ds n)
      (hn : 0 < n) : SpellsYear ('-' :: ds) (-n)

/-- What a text denotes in the international format, in milliseconds from the start of
1970. -/
inductive DenotesTime : List Char → Int → Prop
  | intro {year rest time : List Char} {date : Date} {days millis : Int}
      (hyear : SpellsYear year date.year)
      (hrest : Parts [('-', date.month), ('-', date.day)] rest) (hday : date.IsDay days)
      (htime : TimeOfDay time millis) :
      DenotesTime (year ++ (rest ++ ('T' :: time ++ ['Z']))) (86400000 * days + millis)

theorem SpellsYear.signedNumeral {text : List Char} {year : Int} (hyear : SpellsYear text year) :
    SignedNumeral text year := by
  cases hyear with
  | short _ hds => exact .plain hds
  | later _ hds => exact .plus hds
  | earlier _ hds => exact .minus hds

theorem TimeOfDay.length_eq {text : List Char} {n : Int} (hn : TimeOfDay text n) :
    text.length = 12 := by
  cases hn with
  | intro hhours _ hrest hmillis => simp [hhours, hrest.length_eq, hmillis]

theorem DenotesTime.unique {text : List Char} {m n : Int} (hm : DenotesTime text m)
    (hn : DenotesTime text n) : m = n := by
  cases hm with
  | @intro year rest time date _ _ hyear hrest hday htime =>
      generalize htext : year ++ (rest ++ ('T' :: time ++ ['Z'])) = text at hn
      cases hn with
      | @intro year' rest' time' date' _ _ hyear' hrest' hday' htime' =>
          -- The year may have any length, so the text is cut from its end.
          have htimes : time.length = time'.length := htime.length_eq.trans htime'.length_eq.symm
          have hrests : rest.length = rest'.length := hrest.length_eq.trans hrest'.length_eq.symm
          obtain ⟨rfl, htail⟩ := List.append_inj' htext (by simp [htimes, hrests])
          obtain ⟨rfl, hlast⟩ := List.append_inj htail hrests
          obtain ⟨rfl, -⟩ := List.append_inj' (List.cons.inj hlast).2 rfl
          have hyears := hyear.signedNumeral.unique hyear'.signedNumeral
          have hparts := hrest.unique hrest'
          have hdate : date = date' := by
            cases date
            cases date'
            simp_all
          rw [htime.unique htime', ← hday.number_eq, ← hday'.number_eq, hdate]

/-! ## The text of an instant -/

/-- A hundred million days away from 1970 the year still has six digits at most. -/
theorem natAbs_year_lt {date : Date} {days : Int} (hday : date.IsDay days)
    (hdays : days.natAbs ≤ 100000000) : date.year.natAbs < 1000000 := by
  have hnumber := hday.number_eq
  have hlast : Date.IsReal ⟨999999, 1, 1⟩ := ⟨by decide, by decide, by decide, by decide⟩
  have hfirst : Date.IsReal ⟨-999999, 1, 1⟩ := ⟨by decide, by decide, by decide, by decide⟩
  have hlate : 100000000 < Date.number ⟨999999, 1, 1⟩ := by decide
  have hearly : Date.number ⟨-999999, 1, 1⟩ < -100000000 := by decide
  have hbelow : ¬ 999999 < date.year := by
    intro hlt
    have hgt := hlast.number_lt_of_year_lt hday.isReal hlt
    omega
  have habove : ¬ date.year < -999999 := by
    intro hlt
    have hgt := hday.isReal.number_lt_of_year_lt hfirst hlt
    omega
  omega

theorem spellsYear_isoYear {year : Int} (hyear : year.natAbs < 1000000) :
    SpellsYear (isoYear year).toList year := by
  have hlength {width n : Nat} (hpos : 0 < width) (hn : n < 10 ^ width) :
      (padded width n).toList.length = width :=
    Number.length_padded ((Nat.length_toDigits_le_iff (by decide) hpos).mpr hn)
  rw [isoYear]
  split
  next hshort =>
      obtain ⟨n, rfl⟩ := Int.eq_ofNat_of_zero_le hshort.1
      exact .short (hlength (by decide) (by omega)) (Number.numeral_padded 4 n)
  next hlong =>
      rw [String.toList_append]
      split
      next hneg =>
          obtain ⟨n, rfl⟩ := Int.exists_eq_neg_ofNat (Int.le_of_lt hneg)
          rw [Int.natAbs_neg]
          exact .earlier (hlength (by decide) (by omega)) (Number.numeral_padded 6 n) (by omega)
      next hpos =>
          obtain ⟨n, rfl⟩ := Int.eq_ofNat_of_zero_le (Int.not_lt.mp hpos)
          exact .later (hlength (by decide) (by omega)) (Number.numeral_padded 6 n) (by omega)

theorem toList_isoParts (year month day time : String) :
    (year ++ "-" ++ month ++ "-" ++ day ++ "T" ++ time ++ "Z").toList =
      year.toList ++ (('-' :: month.toList ++ ('-' :: day.toList ++ [])) ++
        ('T' :: time.toList ++ ['Z'])) := by
  simp

theorem denotesTime_iso (instant : Instant) : DenotesTime instant.iso.toList instant.millis := by
  have hday := instant.isDay_moment
  obtain ⟨hmonth, hdate⟩ := hday.isReal.month_lt_and_day_lt
  have hrange := instant.inRange
  have hdays : (instant.millis / dayMillis).natAbs ≤ 100000000 := by
    simp only [maxMillis] at hrange
    simp only [dayMillis]
    omega
  have hmillis : 86400000 * (instant.millis / dayMillis) + instant.millis % 86400000 =
      instant.millis :=
    Int.mul_ediv_add_emod instant.millis 86400000
  have hdenotes := DenotesTime.intro (spellsYear_isoYear (natAbs_year_lt hday hdays))
    (parts_cons_padded '-' hmonth (parts_cons_padded '-' hdate .nil)) hday
    (timeOfDay_timestamp instant)
  rw [hmillis] at hdenotes
  rw [Instant.iso, toList_isoParts]
  exact hdenotes

/-- The text of an instant denotes it, and nothing else. -/
theorem denotesTime_iso_iff {instant : Instant} {n : Int} :
    DenotesTime instant.iso.toList n ↔ n = instant.millis :=
  ⟨fun hn => hn.unique (denotesTime_iso instant), fun hn => hn ▸ denotesTime_iso instant⟩

end WindowScript.Calendar
