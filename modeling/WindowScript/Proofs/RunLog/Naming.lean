/-
# Names of log files

The name of a log file is made of what the user typed and of the clock, and is safe for
all of it: it holds letters, digits, underscores, dots and dashes only, and it is never one
of the names that lead back, so the file lies in the log directory itself.

The name ends with a stamp. What a stamp denotes is said on its own: its numbers have a
fixed width, the date has to be one of the calendar, and its day is found by counting. As
long as the year has four digits, the stamp of an instant denotes the last full second
before it. Stamps are ordered as texts like their numbers from the year on, and so are the
instants, so the names for one command stand in the order of time.
-/

import WindowScript.Proofs.Directory.Places
import WindowScript.Proofs.Journal.Since
import WindowScript.RunLog.FileName

namespace WindowScript

open Number (Numeral padded)

namespace Calendar

/-! ## The order of texts with numbers -/

/-- Texts with the same separators are in the order of their numbers. -/
theorem Parts.order {parts others : List (Char × Nat)} {text other : List Char}
    (hparts : Parts parts text) (hothers : Parts others other)
    (hseparators : parts.map Prod.fst = others.map Prod.fst) :
    (parts.map Prod.snd < others.map Prod.snd → text < other) ∧
      (parts.map Prod.snd = others.map Prod.snd → text = other) := by
  induction hparts generalizing others other with
  | nil =>
      obtain rfl := List.map_eq_nil_iff.mp hseparators.symm
      cases hothers
      exact ⟨fun hlt => absurd hlt (List.lt_irrefl _), fun _ => rfl⟩
  | @cons parts ds rest m separator hds hm hrest ih =>
      cases hothers with
      | nil => simp at hseparators
      | @cons others es more n _ hes hn hmore =>
          simp only [List.map_cons, List.cons.injEq] at hseparators ⊢
          obtain ⟨rfl, hseparators⟩ := hseparators
          obtain ⟨hless, hsame⟩ := hm.order hn (hds.trans hes.symm)
          obtain ⟨hrestLess, hrestSame⟩ := ih hmore hseparators
          rw [List.cons_lt_cons_iff]
          refine ⟨?_, fun ⟨heq, hrestEq⟩ => by rw [hsame heq, hrestSame hrestEq]⟩
          rintro (hlt | ⟨heq, hlt⟩)
          · exact .cons (Number.append_lt_append (hless hlt) (hds.trans hes.symm) rest more)
          · rw [hsame heq]
            exact .cons (List.append_left_lt (hrestLess hlt))

/-- The numbers of a date and a time of day, from large to small. -/
def Moment.numbers (moment : Moment) : List Nat :=
  [moment.date.year.natAbs, moment.date.month, moment.date.day, moment.hour, moment.minute,
    moment.second]

section

variable {layout : Layout} {width : Nat} (hwidth : layout.yearWidth? = some width)

include hwidth

theorem Spells.exists_numeral {text : List Char} {date : Date} {hour minute second : Nat}
    (hspells : Spells layout text date hour minute second) :
    ∃ digits rest, text = digits ++ rest ∧ digits.length = width ∧
      Numeral digits date.year.natAbs ∧
      Parts [('-', date.month), ('-', date.day), (layout.between, hour),
        (layout.separator, minute), (layout.separator, second)] rest := by
  obtain ⟨digits, rest, htext, hyear, hrest⟩ := hspells
  generalize hdate : date.year = year at hyear
  rw [hwidth] at hyear
  cases hyear with
  | fixed hlength hnumeral => exact ⟨digits, rest, htext, hlength, hnumeral, hrest⟩

/-- If the year has a fixed width, then so has the text. -/
theorem Spells.length_eq {text : List Char} {date : Date} {hour minute second : Nat}
    (hspells : Spells layout text date hour minute second) : text.length = width + 15 := by
  obtain ⟨digits, rest, rfl, hdigits, -, hrest⟩ := hspells.exists_numeral hwidth
  rw [List.length_append, hdigits, hrest.length_eq]
  rfl

/-- If the year has a fixed width, then texts are in the order of their numbers. -/
theorem Spells.order {text other : List Char} {moment later : Moment}
    (htext : Spells layout text moment.date moment.hour moment.minute moment.second)
    (hother : Spells layout other later.date later.hour later.minute later.second) :
    (moment.numbers < later.numbers → text < other) ∧
      (moment.numbers = later.numbers → text = other) := by
  obtain ⟨digits, rest, rfl, hdigits, hyear, hrest⟩ := htext.exists_numeral hwidth
  obtain ⟨digits', rest', rfl, hdigits', hyear', hrest'⟩ := hother.exists_numeral hwidth
  obtain ⟨hless, hsame⟩ := hyear.order hyear' (hdigits.trans hdigits'.symm)
  obtain ⟨hrestLess, hrestSame⟩ := hrest.order hrest' rfl
  rw [Moment.numbers, Moment.numbers, List.cons_lt_cons_iff, List.cons.injEq]
  refine ⟨?_, fun ⟨heq, hrestEq⟩ => by rw [hsame heq, hrestSame hrestEq]⟩
  rintro (hlt | ⟨heq, hlt⟩)
  · exact Number.append_lt_append (hless hlt) (hdigits.trans hdigits'.symm) rest rest'
  · rw [hsame heq]
    exact List.append_left_lt (hrestLess hlt)

theorem Denotes.length_eq {text : List Char} {s : Int} (hs : Denotes layout text s) :
    text.length = width + 15 := by
  cases hs with
  | intro hspells => exact hspells.length_eq hwidth

end

/-! ## The order of instants -/

/-- Whether four digits are enough for the year of an instant. -/
def Instant.HasShortYear (instant : Instant) : Prop :=
  0 ≤ instant.moment.date.year ∧ instant.moment.date.year ≤ 9999

instance (instant : Instant) : Decidable instant.HasShortYear :=
  inferInstanceAs (Decidable (_ ∧ _))

namespace Instant

variable {first second : Instant}

theorem number_moment (instant : Instant) :
    instant.moment.date.number = instant.millis / dayMillis :=
  instant.isDay_moment.number_eq

/-- A later date makes an instant later, whatever the time of day. -/
theorem seconds_lt_of_number_lt
    (hlt : first.moment.date.number < second.moment.date.number) :
    first.millis / 1000 < second.millis / 1000 := by
  have hseconds := first.seconds_moment
  have hlaterSeconds := second.seconds_moment
  have hhour := first.hour_lt
  have hminute := first.minute_lt
  have hsecond := first.second_lt
  rw [number_moment, number_moment] at hlt
  omega

/-- On one date, the time of day decides. -/
theorem seconds_lt_of_time_lt (hdate : first.moment.date.number = second.moment.date.number)
    (hlt : [first.moment.hour, first.moment.minute, first.moment.second] <
      [second.moment.hour, second.moment.minute, second.moment.second]) :
    first.millis / 1000 < second.millis / 1000 := by
  have hseconds := first.seconds_moment
  have hlaterSeconds := second.seconds_moment
  have hminute := first.minute_lt
  have hsecond := first.second_lt
  rw [number_moment, number_moment] at hdate
  simp only [List.cons_lt_cons_iff, List.not_lt_nil, and_false, or_false] at hlt
  omega

/-- An instant is later, by seconds, if the first of its numbers that differs is larger. -/
theorem seconds_lt_of_numbers_lt (hfirst : first.HasShortYear) (hsecond : second.HasShortYear)
    (hlt : first.moment.numbers < second.moment.numbers) :
    first.millis / 1000 < second.millis / 1000 := by
  have hreal := first.isDay_moment.isReal
  have hlater := second.isDay_moment.isReal
  have hpos := hfirst.1
  have hlaterPos := hsecond.1
  rw [Moment.numbers, Moment.numbers, List.cons_lt_cons_iff, List.cons_lt_cons_iff,
    List.cons_lt_cons_iff] at hlt
  rcases hlt with hyear | ⟨hyear, hmonth | ⟨hmonth, hday | ⟨hday, htime⟩⟩⟩
  · exact seconds_lt_of_number_lt (hreal.number_lt_of_year_lt hlater (by omega))
  · exact seconds_lt_of_number_lt (hreal.number_lt_of_month_lt hlater (by omega) hmonth)
  · apply seconds_lt_of_number_lt
    have hyear : first.moment.date.year = second.moment.date.year := by omega
    simp only [Date.number, hyear, hmonth]
    omega
  · refine seconds_lt_of_time_lt ?_ htime
    have hyear : first.moment.date.year = second.moment.date.year := by omega
    simp only [Date.number, hyear, hmonth, hday]

theorem seconds_eq_of_numbers_eq (hfirst : first.HasShortYear) (hsecond : second.HasShortYear)
    (heq : first.moment.numbers = second.moment.numbers) :
    first.millis / 1000 = second.millis / 1000 := by
  have hpos := hfirst.1
  have hlaterPos := hsecond.1
  simp only [Moment.numbers, List.cons.injEq, and_true] at heq
  obtain ⟨hyear, hmonth, hday, hhour, hminute, hsecondEq⟩ := heq
  have hyear : first.moment.date.year = second.moment.date.year := by omega
  have hnumber : first.moment.date.number = second.moment.date.number := by
    simp only [Date.number, hyear, hmonth, hday]
  rw [number_moment, number_moment] at hnumber
  rw [← first.seconds_moment, ← second.seconds_moment, hnumber, hhour, hminute, hsecondEq]

end Instant

theorem numbers_trichotomy (first second : List Nat) :
    first < second ∨ first = second ∨ second < first := by
  by_cases hlt : first < second
  · exact Or.inl hlt
  · by_cases hgt : second < first
    · exact Or.inr (Or.inr hgt)
    · exact Or.inr (Or.inl (List.lex_trichotomous (fun m n hmn hnm => by omega) hgt hlt))

end Calendar

namespace RunLog

open Calendar

/-! ## The stamp of an instant -/

/-- The layout of stamps, as long as the year has four digits. -/
def stampLayout : Layout := ⟨some 4, 'T', '-'⟩

theorem map_dash_padded (width n : Nat) :
    (padded width n).toList.map (fun c => if c = ':' then '-' else c) =
      (padded width n).toList := by
  have hkept : ∀ c ∈ (padded width n).toList, (if c = ':' then '-' else c) = id c := by
    intro c hc
    apply if_neg
    rintro rfl
    exact Number.not_mem_padded (by decide) width n hc
  rw [List.map_congr_left hkept, List.map_id]

/-- The fields of a stamp, with the separators given for the time of day. -/
def stampWith (separator : Char) (moment : Moment) : List Char :=
  (padded 4 moment.date.year.natAbs).toList ++
    ('-' :: (padded 2 moment.date.month).toList ++
      ('-' :: (padded 2 moment.date.day).toList ++
        ('T' :: (padded 2 moment.hour).toList ++
          (separator :: (padded 2 moment.minute).toList ++
            (separator :: (padded 2 moment.second).toList ++ [])))))

theorem map_dash_stampWith (moment : Moment) :
    (stampWith ':' moment).map (fun c => if c = ':' then '-' else c) = stampWith '-' moment := by
  simp [stampWith, map_dash_padded]

theorem length_stampWith (separator other : Char) (moment : Moment) :
    (stampWith separator moment).length = (stampWith other moment).length := by
  simp [stampWith]

theorem isoYear_of_short {year : Int} (hyear : 0 ≤ year ∧ year ≤ 9999) :
    isoYear year = padded 4 year.natAbs :=
  if_pos hyear

theorem toList_isoText (moment : Moment) :
    (padded 4 moment.date.year.natAbs ++ "-" ++ padded 2 moment.date.month ++ "-" ++
      padded 2 moment.date.day ++ "T" ++
        (padded 2 moment.hour ++ ":" ++ padded 2 moment.minute ++ ":" ++ padded 2 moment.second ++
          "." ++ padded 3 moment.millisecond) ++ "Z").toList =
      stampWith ':' moment ++ ('.' :: (padded 3 moment.millisecond).toList ++ ['Z']) := by
  simp [stampWith]

section

variable {instant : Instant} (hyear : instant.HasShortYear)

include hyear

theorem iso_eq :
    instant.iso.toList = stampWith ':' instant.moment ++
      ('.' :: (padded 3 instant.moment.millisecond).toList ++ ['Z']) := by
  rw [Instant.iso, isoYear_of_short hyear]
  exact toList_isoText instant.moment

theorem spells_stampWith_dash :
    Spells stampLayout (stampWith '-' instant.moment) instant.moment.date instant.moment.hour
      instant.moment.minute instant.moment.second := by
  have hwidth : (Number.digits instant.moment.date.year.natAbs).length ≤ 4 := by
    apply (Nat.length_toDigits_le_iff (by decide) (by decide)).mpr
    have hle := hyear.2
    have hpos := hyear.1
    omega
  have hdigits : YearText (padded 4 instant.moment.date.year.natAbs).toList (some 4)
      instant.moment.date.year := by
    have hfixed := YearText.fixed (Number.length_padded hwidth) (Number.numeral_padded 4 _)
    rwa [Int.natAbs_of_nonneg hyear.1] at hfixed
  exact ⟨_, _, rfl, hdigits, instant.parts_moment 'T' '-'⟩

theorem stamp_eq : stamp instant = stampWith '-' instant.moment := by
  have hlength : (stampWith ':' instant.moment).length = 19 :=
    (length_stampWith ':' '-' _).trans ((spells_stampWith_dash hyear).length_eq rfl)
  rw [stamp, iso_eq hyear, List.take_left' hlength, map_dash_stampWith]

theorem spells_stamp :
    Spells stampLayout (stamp instant) instant.moment.date instant.moment.hour
      instant.moment.minute instant.moment.second := by
  rw [stamp_eq hyear]
  exact spells_stampWith_dash hyear

/-- The stamp of an instant denotes the full seconds up to it. -/
theorem denotes_stamp : Denotes stampLayout (stamp instant) (instant.millis / 1000) := by
  rw [← instant.seconds_moment]
  exact .intro (spells_stamp hyear) instant.isDay_moment instant.hour_lt instant.minute_lt
    instant.second_lt

end

/-! ## Names -/

/-- The second that the stamp at the end of a file name denotes. -/
def Dated (file : String) (s : Int) : Prop :=
  ∃ command stamp, file.toList = command ++ '-' :: (stamp ++ ".log".toList) ∧
    Denotes stampLayout stamp s

theorem toList_fileName (name : String) (instant : Instant) :
    (fileName name instant).toList =
      commandPart name ++ '-' :: (stamp instant ++ ".log".toList) := by
  rw [fileName, String.toList_append, String.toList_ofList, List.append_assoc, List.cons_append]

theorem Dated.unique {file : String} {s s' : Int} (hs : Dated file s) (hs' : Dated file s') :
    s = s' := by
  obtain ⟨command, stamp, hfile, hstamp⟩ := hs
  obtain ⟨command', stamp', hfile', hstamp'⟩ := hs'
  have hlength : ('-' :: (stamp ++ ".log".toList)).length =
      ('-' :: (stamp' ++ ".log".toList)).length := by
    simp [hstamp.length_eq rfl, hstamp'.length_eq rfl]
  -- The command may have any length, so the name is cut from its end.
  obtain ⟨-, htail⟩ := List.append_inj' (hfile.symm.trans hfile') hlength
  obtain ⟨rfl, -⟩ := List.append_inj' (List.cons.inj htail).2 rfl
  exact hstamp.unique hstamp'

theorem dated_fileName_iff (name : String) {instant : Instant} (hyear : instant.HasShortYear)
    {s : Int} : Dated (fileName name instant) s ↔ s = instant.millis / 1000 := by
  have hdated : Dated (fileName name instant) (instant.millis / 1000) :=
    ⟨_, _, toList_fileName name instant, denotes_stamp hyear⟩
  exact ⟨fun hs => hs.unique hdated, fun hs => hs ▸ hdated⟩

/-- What a sanitised text holds. -/
def Kept (cs : List Char) : Prop := ∀ c ∈ cs, isKept c = true

theorem kept_commandPart (name : String) : Kept (commandPart name) := by
  intro c hc
  obtain ⟨d, -, hd⟩ := List.mem_flatMap.mp hc
  unfold keep at hd
  split at hd
  next hkept =>
      rw [List.mem_singleton.mp hd]
      exact hkept
  next =>
      rw [List.eq_of_mem_replicate hd]
      decide

theorem kept_padded (width n : Nat) : Kept (padded width n).toList := by
  intro c hc
  obtain ⟨⟨-, hall⟩, -⟩ := Number.numeral_iff.mp (Number.numeral_padded width n)
  have hdigit := List.all_eq_true.mp hall c hc
  simp [isKept, Char.isAlphanum, hdigit]

theorem kept_stampWith_dash (moment : Moment) : Kept (stampWith '-' moment) := by
  have hdash : isKept '-' = true := by decide
  have hletter : isKept 'T' = true := by decide
  simp only [Kept, stampWith, List.forall_mem_append, List.forall_mem_cons]
  exact ⟨kept_padded _ _, ⟨hdash, kept_padded _ _⟩, ⟨hdash, kept_padded _ _⟩,
    ⟨hletter, kept_padded _ _⟩, ⟨hdash, kept_padded _ _⟩, ⟨hdash, kept_padded _ _⟩,
    List.forall_mem_nil _⟩

theorem kept_fileName (name : String) {instant : Instant} (hyear : instant.HasShortYear) :
    Kept (fileName name instant).toList := by
  rw [toList_fileName, stamp_eq hyear, Kept, List.forall_mem_append, List.forall_mem_cons,
    List.forall_mem_append]
  exact ⟨kept_commandPart name, by decide, kept_stampWith_dash _, List.all_eq_true.mp (by decide)⟩

theorem isKept_iff {c : Char} :
    isKept c = true ↔ c.isAlphanum = true ∨ c ∈ ['_', '.', '-'] := by
  simp [isKept, or_assoc]

/-- A file name leads into a directory. Its stamp makes it longer than the names that do
not. -/
theorem isName_fileName (name : String) {instant : Instant} (hyear : instant.HasShortYear) :
    Path.IsName (fileName name instant).toList := by
  have hlong : 2 < (fileName name instant).toList.length := by
    rw [toList_fileName, List.length_append, List.length_cons, List.length_append,
      (denotes_stamp hyear).length_eq rfl]
    omega
  have hne {other : List Char} (hother : other.length ≤ 2) :
      (fileName name instant).toList ≠ other := by
    intro heq
    rw [heq] at hlong
    exact absurd hother (Nat.not_le_of_lt hlong)
  refine ⟨hne (by decide), hne (by decide), hne (by decide), fun hslash => ?_⟩
  exact absurd (kept_fileName name hyear _ hslash) (by decide)

/-- Names for one command are in the order of their seconds. -/
theorem fileName_order (name : String) {first second : Instant} (hfirst : first.HasShortYear)
    (hsecond : second.HasShortYear) :
    (first.moment.numbers < second.moment.numbers →
      fileName name first < fileName name second) ∧
    (first.moment.numbers = second.moment.numbers →
      fileName name first = fileName name second) := by
  have hstamp := spells_stamp hfirst
  have hlater := spells_stamp hsecond
  obtain ⟨hless, hsame⟩ := hstamp.order rfl hlater
  constructor
  · intro hlt
    show (fileName name first).toList < (fileName name second).toList
    rw [toList_fileName, toList_fileName]
    apply List.append_left_lt
    exact .cons (Number.append_lt_append (hless hlt)
      ((hstamp.length_eq rfl).trans (hlater.length_eq rfl).symm) _ _)
  · intro heq
    rw [← String.toList_inj, toList_fileName, toList_fileName, hsame heq]

theorem fileName_lt_iff (name : String) {first second : Instant} (hfirst : first.HasShortYear)
    (hsecond : second.HasShortYear) :
    (fileName name first < fileName name second ↔
      first.millis / 1000 < second.millis / 1000) ∧
    (fileName name first = fileName name second ↔
      first.millis / 1000 = second.millis / 1000) := by
  obtain ⟨hless, hsame⟩ := fileName_order name hfirst hsecond
  obtain ⟨hmore, -⟩ := fileName_order name hsecond hfirst
  have hdiffer {file later : String} (hlt : file < later) : file ≠ later := by
    rintro rfl
    exact String.lt_irrefl file hlt
  rcases numbers_trichotomy first.moment.numbers second.moment.numbers with hlt | heq | hgt
  · have hseconds := Instant.seconds_lt_of_numbers_lt hfirst hsecond hlt
    simp only [hless hlt, hseconds, hdiffer (hless hlt), Int.ne_of_lt hseconds, and_self]
  · have hseconds := Instant.seconds_eq_of_numbers_eq hfirst hsecond heq
    rw [hsame heq, hseconds]
    exact ⟨iff_of_false (String.lt_irrefl _) (Int.lt_irrefl _), iff_of_true rfl rfl⟩
  · have hseconds := Instant.seconds_lt_of_numbers_lt hsecond hfirst hgt
    simp only [String.lt_asymm (hmore hgt), Int.lt_asymm hseconds, (hdiffer (hmore hgt)).symm,
      (Int.ne_of_lt hseconds).symm, and_self]

/-! ## Starts without a name -/

/-- The milliseconds that a clock shows, if they are a valid date. -/
def ShowsDate (clock : Clock) (millis : Int) : Prop :=
  ∃ reading, clock = some reading ∧ reading.truncate? = some millis ∧
    -8640000000000000 ≤ millis ∧ millis ≤ 8640000000000000

theorem exists_instant_iff {clock : Clock} :
    (∃ instant, clock.instant? = some instant) ↔ ∃ millis, ShowsDate clock millis := by
  constructor
  · rintro ⟨instant, hinstant⟩
    obtain ⟨reading, hreading, hvalid⟩ := Option.bind_eq_some_iff.mp hinstant
    obtain ⟨millis, hmillis, hrange⟩ := Option.bind_eq_some_iff.mp hvalid
    rw [Instant.ofMillis?, Option.dite_none_right_eq_some] at hrange
    obtain ⟨hbounds, -⟩ := hrange
    exact ⟨millis, reading, hreading, hmillis, hbounds⟩
  · rintro ⟨millis, reading, rfl, hmillis, hbounds⟩
    have hrange : -maxMillis ≤ millis ∧ millis ≤ maxMillis := hbounds
    refine ⟨⟨millis, hrange⟩, ?_⟩
    rw [Clock.instant?, Option.bind_some, hmillis, Option.bind_some, Instant.ofMillis?,
      dif_pos hrange]

theorem fileNameAt_eq_error_iff (name : String) (clock : Clock) :
    fileNameAt name clock.instant? = .error .noInstant ↔ ∀ millis, ¬ ShowsDate clock millis := by
  rw [← not_exists, ← exists_instant_iff]
  cases clock.instant? with
  | none => simp [fileNameAt]
  | some instant => simp [fileNameAt]

/-- The log file of a run has a name of letters, digits, underscores, dots and dashes,
whatever the command is, and lies in the log directory itself, wherever that is. Its stamp
denotes the full seconds up to the start of the run, and for one command the names stand
in the order of time. Without a valid date there is no name. -/
theorem fileNameAt_confined (name : String) :
    (∀ instant : Instant, instant.HasShortYear →
      ∃ file, fileNameAt name (some instant) = .ok file ∧
        (∀ c ∈ file.toList, c.isAlphanum = true ∨ c ∈ ['_', '.', '-']) ∧
        file ≠ "" ∧ file ≠ "." ∧ file ≠ ".." ∧
        (∀ working directory, Directory.locate working (Path.join directory file) =
          Directory.locate working directory ++ [file]) ∧
        ∀ s, Dated file s ↔ s = instant.millis.fdiv 1000) ∧
    (∀ first second : Instant, first.HasShortYear → second.HasShortYear →
      ∀ file later, fileNameAt name (some first) = .ok file →
        fileNameAt name (some second) = .ok later →
        (file < later ↔ first.millis.fdiv 1000 < second.millis.fdiv 1000) ∧
        (file = later ↔ first.millis.fdiv 1000 = second.millis.fdiv 1000)) ∧
    ∀ clock : Clock, fileNameAt name clock.instant? = .error .noInstant ↔
      ∀ millis, ¬ ShowsDate clock millis := by
  have hfloor (n : Int) : n.fdiv 1000 = n / 1000 := Int.fdiv_eq_ediv_of_nonneg n (by decide)
  refine ⟨fun instant hyear => ?_, fun first second hfirst hsecond file later hfile hlater => ?_,
    fileNameAt_eq_error_iff name⟩
  · have hname := isName_fileName name hyear
    have hne {other : String} (hother : (fileName name instant).toList ≠ other.toList) :
        fileName name instant ≠ other := fun heq => hother (by rw [heq])
    refine ⟨_, rfl, ?_, hne hname.ne_nil, hne hname.ne_dot, hne hname.ne_up, ?_, ?_⟩
    · intro c hc
      exact isKept_iff.mp (kept_fileName name hyear c hc)
    · intro working directory
      exact Directory.locate_join working directory hname
    · intro s
      rw [hfloor]
      exact dated_fileName_iff name hyear
  · obtain rfl : fileName name first = file := Except.ok.inj hfile
    obtain rfl : fileName name second = later := Except.ok.inj hlater
    rw [hfloor, hfloor]
    exact fileName_lt_iff name hfirst hsecond

/-- The first second of the year 0 and the last millisecond of the year 9999. -/
theorem fileNameAt_confined_turns :
    ∃ first last : Instant, first.millis = -62167219200000 ∧ last.millis = 253402300799999 ∧
      first.HasShortYear ∧ last.HasShortYear ∧
      fileNameAt "a/..😀?/" (some first) = .ok "..___-0000-01-01T00-00-00.log" ∧
      fileNameAt "a/..😀?/" (some last) = .ok "..___-9999-12-31T23-59-59.log" ∧
      Directory.locate ["home"] (Path.join "../logs/." "..___-0000-01-01T00-00-00.log") =
        ["logs", "..___-0000-01-01T00-00-00.log"] ∧
      Dated "..___-0000-01-01T00-00-00.log" (-62167219200) ∧
      "..___-0000-01-01T00-00-00.log" < "..___-9999-12-31T23-59-59.log" ∧
      fileNameAt "a/..😀?/" (Clock.instant? (some (.integer 8640000000000001))) =
        .error .noInstant := by
  obtain ⟨hconfined, horder, hinvalid⟩ := fileNameAt_confined "a/..😀?/"
  have hfirst : fileNameAt "a/..😀?/" (some ⟨-62167219200000, by decide⟩) =
      .ok "..___-0000-01-01T00-00-00.log" := by decide +kernel
  have hlast : fileNameAt "a/..😀?/" (some ⟨253402300799999, by decide⟩) =
      .ok "..___-9999-12-31T23-59-59.log" := by decide +kernel
  have hshort : Instant.HasShortYear ⟨-62167219200000, by decide⟩ := by decide +kernel
  have hshortLast : Instant.HasShortYear ⟨253402300799999, by decide⟩ := by decide +kernel
  obtain ⟨file, hfile, -, -, -, -, hplace, hdated⟩ := hconfined _ hshort
  obtain rfl : "..___-0000-01-01T00-00-00.log" = file := Except.ok.inj (hfirst.symm.trans hfile)
  refine ⟨_, _, rfl, rfl, hshort, hshortLast, hfirst, hlast, (hplace _ _).trans (by decide +kernel),
    (hdated _).mpr (by decide), ?_, ?_⟩
  · exact (horder _ _ hshort hshortLast _ _ hfirst hlast).1.mpr (by decide)
  · apply (hinvalid _).mpr
    rintro millis ⟨reading, hreading, hmillis, hbounds⟩
    obtain rfl := Option.some.inj hreading
    obtain rfl := Option.some.inj hmillis
    exact absurd hbounds.2 (by decide)

end RunLog

end WindowScript
