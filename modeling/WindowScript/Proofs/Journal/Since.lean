/-
# Where a query of the journal starts

The journal is asked for everything since an instant, which is written as a date and a
time of day to the second. What such a text denotes is said on its own: it is cut into
numerals, the date has to be one of the calendar, and its day is found by counting. The
text that is written denotes the last full second before the instant, or the instant
itself, for instants before and after the start of 1970 alike. So a query never starts
after the instant it is made for, starts less than a second before it, and a later
instant never makes it start earlier.
-/

import WindowScript.Journal.Reader
import WindowScript.Proofs.Calendar.Gregorian
import WindowScript.Proofs.Number.Numeral

namespace WindowScript

open Number (Numeral SignedNumeral padded)

namespace Calendar

/-! ## What a text denotes -/

/-- Numbers of two digits in a row, each one behind its separator. -/
inductive Parts : List (Char × Nat) → List Char → Prop
  | nil : Parts [] []
  | cons {parts : List (Char × Nat)} {ds rest : List Char} {n : Nat} (separator : Char)
      (hlength : ds.length = 2) (hds : Numeral ds n) (hrest : Parts parts rest) :
      Parts ((separator, n) :: parts) (separator :: ds ++ rest)

/-- How a date and a time of day are written: how many digits the year has, if that is
fixed, what stands between the date and the time of day, and what stands between the
numbers of the latter. -/
structure Layout where
  yearWidth? : Option Nat
  between : Char
  separator : Char

/-- The text of a year. It has a sign only if its width is not fixed. -/
inductive YearText (text : List Char) : Option Nat → Int → Prop
  | free {year : Int} (htext : SignedNumeral text year) : YearText text none year
  | fixed {width n : Nat} (hlength : text.length = width) (htext : Numeral text n) :
      YearText text (some width) n

/-- The text of a date and a time of day. Only the year may have more than two digits. -/
def Spells (layout : Layout) (text : List Char) (date : Date) (hour minute second : Nat) : Prop :=
  ∃ year rest, text = year ++ rest ∧ YearText year layout.yearWidth? date.year ∧
    Parts [('-', date.month), ('-', date.day), (layout.between, hour), (layout.separator, minute),
      (layout.separator, second)] rest

/-- What a text denotes as a date and a time of day, in seconds from the start of 1970. -/
inductive Denotes (layout : Layout) (text : List Char) : Int → Prop
  | intro {date : Date} {days : Int} {hour minute second : Nat}
      (hspells : Spells layout text date hour minute second) (hday : date.IsDay days)
      (hhour : hour < 24) (hminute : minute < 60) (hsecond : second < 60) :
      Denotes layout text (86400 * days + 3600 * hour + 60 * minute + second)

/-! ## One meaning -/

theorem Parts.length_eq {parts : List (Char × Nat)} {text : List Char} (hparts : Parts parts text) :
    text.length = 3 * parts.length := by
  induction hparts with
  | nil => rfl
  | cons separator hlength _ _ ih =>
      simp only [List.cons_append, List.length_cons, List.length_append, hlength, ih]
      omega

/-- Texts of one length are cut at the same places. -/
theorem Parts.unique {parts parts' : List (Char × Nat)} {text : List Char}
    (hparts : Parts parts text) (hparts' : Parts parts' text) : parts = parts' := by
  induction hparts generalizing parts' with
  | nil =>
      have hlength := hparts'.length_eq
      rw [List.length_nil] at hlength
      exact (List.length_eq_zero_iff.mp (by omega)).symm
  | @cons parts ds rest n separator hlength hds hrest ih =>
      generalize htext : separator :: ds ++ rest = text at hparts'
      cases hparts' with
      | nil => cases htext
      | @cons parts' ds' rest' n' separator' hlength' hds' hrest' =>
          obtain ⟨rfl, htail⟩ := List.cons.inj htext
          obtain ⟨rfl, rfl⟩ := List.append_inj htail (hlength.trans hlength'.symm)
          rw [hds.unique hds', ih hrest']

theorem YearText.unique {text : List Char} {width? : Option Nat} {year year' : Int}
    (hyear : YearText text width? year) (hyear' : YearText text width? year') : year = year' := by
  cases hyear with
  | free htext =>
      cases hyear' with
      | free htext' => exact htext.unique htext'
  | fixed _ htext =>
      cases hyear' with
      | fixed _ htext' => rw [htext.unique htext']

section

variable {layout : Layout} {text : List Char}

theorem Spells.unique {date date' : Date} {hour hour' minute minute' second second' : Nat}
    (hspells : Spells layout text date hour minute second)
    (hspells' : Spells layout text date' hour' minute' second') :
    date = date' ∧ hour = hour' ∧ minute = minute' ∧ second = second' := by
  obtain ⟨year, rest, htext, hyear, hparts⟩ := hspells
  obtain ⟨year', rest', htext', hyear', hparts'⟩ := hspells'
  -- The year may have any length, so the text is cut from its end.
  have hlength : rest.length = rest'.length := hparts.length_eq.trans hparts'.length_eq.symm
  obtain ⟨rfl, rfl⟩ := List.append_inj' (htext.symm.trans htext') hlength
  have hyears := hyear.unique hyear'
  have heq := hparts.unique hparts'
  cases date
  cases date'
  simp_all

theorem Denotes.unique {s s' : Int} (hs : Denotes layout text s) (hs' : Denotes layout text s') :
    s = s' := by
  cases hs with
  | intro hspells hday =>
      cases hs' with
      | intro hspells' hday' =>
          obtain ⟨rfl, rfl, rfl, rfl⟩ := hspells.unique hspells'
          rw [← hday.number_eq, ← hday'.number_eq]

end

/-! ## The text of an instant -/

theorem parts_cons_padded {parts : List (Char × Nat)} {rest : List Char} {n : Nat}
    (separator : Char) (hn : n < 100) (hrest : Parts parts rest) :
    Parts ((separator, n) :: parts) (separator :: (padded 2 n).toList ++ rest) :=
  .cons separator (Number.length_padded (Number.length_digits_le_two hn))
    (Number.numeral_padded 2 n) hrest

namespace Instant

variable (instant : Instant)

theorem isDay_moment : instant.moment.date.IsDay (instant.millis / dayMillis) :=
  Date.isDay_ofDayNumber _

theorem hour_lt : instant.moment.hour < 24 := by
  show (instant.millis % 86400000).toNat / 3600000 < 24
  omega

theorem minute_lt : instant.moment.minute < 60 := Nat.mod_lt _ (by decide)

theorem second_lt : instant.moment.second < 60 := Nat.mod_lt _ (by decide)

theorem seconds_moment :
    86400 * (instant.millis / dayMillis) + 3600 * instant.moment.hour +
      60 * instant.moment.minute + instant.moment.second = instant.millis / 1000 := by
  simp only [moment, dayMillis]
  omega

/-- What follows the year of an instant is cut into its numbers. -/
theorem parts_moment (between separator : Char) :
    Parts [('-', instant.moment.date.month), ('-', instant.moment.date.day),
        (between, instant.moment.hour), (separator, instant.moment.minute),
        (separator, instant.moment.second)]
      ('-' :: (padded 2 instant.moment.date.month).toList ++
        ('-' :: (padded 2 instant.moment.date.day).toList ++
          (between :: (padded 2 instant.moment.hour).toList ++
            (separator :: (padded 2 instant.moment.minute).toList ++
              (separator :: (padded 2 instant.moment.second).toList ++ []))))) := by
  obtain ⟨hmonth, hday⟩ := instant.isDay_moment.isReal.month_lt_and_day_lt
  have hhour := instant.hour_lt
  have hminute := instant.minute_lt
  have hsecond := instant.second_lt
  exact parts_cons_padded '-' hmonth (parts_cons_padded '-' hday
    (parts_cons_padded between (by omega) (parts_cons_padded separator (by omega)
      (parts_cons_padded separator (by omega) .nil))))

end Instant

/-- The layout that the journal is asked in. -/
def Layout.journal : Layout := ⟨none, ' ', ':'⟩

theorem spells_journalTime (instant : Instant) :
    Spells .journal (journalTime (some instant)).toList instant.moment.date instant.moment.hour
      instant.moment.minute instant.moment.second := by
  refine ⟨_, _, ?_, .free (Number.signedNumeral_decimalInt _), instant.parts_moment ' ' ':'⟩
  simp [journalTime, yearText, clockText, field]

theorem denotes_journalTime (instant : Instant) :
    Denotes .journal (journalTime (some instant)).toList (instant.millis / 1000) := by
  rw [← instant.seconds_moment]
  exact .intro (spells_journalTime instant) instant.isDay_moment instant.hour_lt
    instant.minute_lt instant.second_lt

end Calendar

namespace Journal

open Calendar

/-- The second from which a query asks for the journal, in seconds from the start of 1970. -/
def StartsAt (args : List String) (s : Int) : Prop :=
  ∃ text, "--since=" ++ text ∈ args ∧ Denotes .journal text.toList s

/-- No other argument of a query is taken for its start: they differ in the letter behind
the hyphens. -/
theorem since_not_mem_tail (text : String) (since : Option Instant) :
    "--since=" ++ text ∉ (query since).tail := by
  have hothers : ∀ arg ∈ (query none).tail, arg.toList[2]? ≠ some 's' := by decide +kernel
  intro hmem
  apply hothers _ hmem
  simp

theorem since_mem_query_iff {text : String} {since : Option Instant} :
    "--since=" ++ text ∈ query since ↔ text = journalTime since := by
  have hquery : query since = ("--since=" ++ journalTime since) :: (query since).tail := rfl
  rw [hquery, List.mem_cons, String.append_right_inj]
  exact or_iff_left (since_not_mem_tail text since)

theorem startsAt_query_iff {instant : Instant} {s : Int} :
    StartsAt (query (some instant)) s ↔ s = instant.millis / 1000 := by
  constructor
  · rintro ⟨text, hmem, hdenotes⟩
    rw [since_mem_query_iff] at hmem
    subst hmem
    exact hdenotes.unique (denotes_journalTime instant)
  · rintro rfl
    exact ⟨_, since_mem_query_iff.mpr rfl, denotes_journalTime instant⟩

/-- The text of an instant has two digits for everything but the year and names a date
and a time of day that exist. It denotes the full seconds up to the instant, rounded
towards the past, and nothing else. So a query for the instant starts at one second, not
after the instant and less than a second before it, and not after the start of a query
for a later instant. -/
theorem journalTime_exact (instant : Instant) :
    (∃ date hour minute second,
      Spells .journal (journalTime (some instant)).toList date hour minute second ∧
      date.IsReal ∧ hour < 24 ∧ minute < 60 ∧ second < 60) ∧
    (∀ s, Denotes .journal (journalTime (some instant)).toList s ↔
      s = instant.millis.fdiv 1000) ∧
    (∃ s, (∀ s', StartsAt (query (some instant)) s' ↔ s' = s) ∧
      1000 * s ≤ instant.millis ∧ instant.millis < 1000 * s + 1000) ∧
    ∀ later : Instant, instant.millis ≤ later.millis →
      ∀ s s', StartsAt (query (some instant)) s → StartsAt (query (some later)) s' → s ≤ s' := by
  refine ⟨?_, ?_, ?_, ?_⟩
  · exact ⟨_, _, _, _, spells_journalTime instant, instant.isDay_moment.isReal, instant.hour_lt,
      instant.minute_lt, instant.second_lt⟩
  · intro s
    rw [Int.fdiv_eq_ediv_of_nonneg _ (by decide)]
    exact ⟨fun hs => hs.unique (denotes_journalTime instant),
      fun hs => hs ▸ denotes_journalTime instant⟩
  · exact ⟨instant.millis / 1000, fun s' => startsAt_query_iff, by omega, by omega⟩
  · intro later hle s s' hs hs'
    rw [startsAt_query_iff] at hs hs'
    rw [hs, hs']
    exact Int.ediv_le_ediv (by decide) hle

/-- The last millisecond before 1970 and the last instant of all. -/
theorem journalTime_exact_turn :
    journalTime (some ⟨-1, by decide⟩) = "1969-12-31 23:59:59" ∧
    StartsAt (query (some ⟨-1, by decide⟩)) (-1) ∧
    StartsAt (query (some ⟨maxMillis, by decide⟩)) 8640000000000 ∧
    (-1 : Int) ≤ 8640000000000 := by
  have hbefore : StartsAt (query (some ⟨-1, by decide⟩)) (-1) := by
    obtain ⟨-, -, ⟨s, hs, hle, hlt⟩, -⟩ := journalTime_exact ⟨-1, by decide⟩
    dsimp only at hle hlt
    exact (hs _).mpr (by omega)
  have hlast : StartsAt (query (some ⟨maxMillis, by decide⟩)) 8640000000000 := by
    obtain ⟨-, -, ⟨s, hs, hle, hlt⟩, -⟩ := journalTime_exact ⟨maxMillis, by decide⟩
    simp only [maxMillis] at hle hlt
    exact (hs _).mpr (by omega)
  obtain ⟨-, -, -, hmono⟩ := journalTime_exact ⟨-1, by decide⟩
  exact ⟨by decide +kernel, hbefore, hlast,
    hmono ⟨maxMillis, by decide⟩ (by decide) _ _ hbefore hlast⟩

end Journal

end WindowScript
