/-
# Events are read back

An event is one line of the run log with one JSON object. Reading the line gives every
field once, with the last value that was given for it, and the type and the time of the
event, unless the fields give these themselves. Array indices come first, from small to
large. Then come the type and the time, which keep their places even where fields give
them, and the other fields follow in the order in which they were given first.
-/

import WindowScript.Proofs.Calendar.Iso
import WindowScript.Proofs.Json.Reading
import WindowScript.RunLog.Entry

namespace WindowScript.RunLog

open WindowScript.Calendar (Clock DenotesTime Instant)
open WindowScript.Json (Arranged IsIndex IsPlainKey Plain StandsFor lastGiven?)

/-! ## Keys -/

/-- Whether a key is not one of the two that every event has. -/
def isOther (key : String) : Bool := key ≠ "type" && key ≠ "timestamp"

theorem isOther_iff {key : String} : isOther key = true ↔ key ≠ "type" ∧ key ≠ "timestamp" := by
  simp [isOther]

theorem isPlainKey_type : IsPlainKey "type" := Json.index?_eq_none_iff.mp (by decide)

theorem isPlainKey_timestamp : IsPlainKey "timestamp" := Json.index?_eq_none_iff.mp (by decide)

theorem isOther_of_isIndex {key : String} {n : Nat} (hkey : IsIndex key n) :
    isOther key = true := by
  rw [isOther_iff]
  constructor
  · rintro rfl
    exact isPlainKey_type n hkey
  · rintro rfl
    exact isPlainKey_timestamp n hkey

/-- In a row that ascends, the least comes first. -/
theorem exists_cons_of_least {α : Type} {rank : α → Nat} {row : List α}
    (hrow : row.Pairwise fun a b => rank a < rank b) {first : α} (hfirst : first ∈ row)
    (hleast : ∀ a ∈ row, rank first ≤ rank a) : ∃ rest, row = first :: rest := by
  cases row with
  | nil => exact absurd hfirst List.not_mem_nil
  | cons a rest =>
      rcases List.mem_cons.mp hfirst with rfl | hlater
      · exact ⟨rest, rfl⟩
      · have hlt := (List.pairwise_cons.mp hrow).1 first hlater
        have hle := hleast a List.mem_cons_self
        omega

/-- Leaving out other elements does not change which of two comes first. -/
theorem idxOf_filter_lt {keep : String → Bool} {row : List String} {a b : String}
    (ha : keep a = true) (hlt : row.idxOf a < row.idxOf b) :
    (row.filter keep).idxOf a < (row.filter keep).idxOf b := by
  induction row with
  | nil => exact absurd hlt (Nat.lt_irrefl _)
  | cons c row ih =>
      by_cases hc : keep c = true
      · rw [List.filter_cons_of_pos hc]
        grind
      · rw [List.filter_cons_of_neg hc]
        grind

/-- The type and the time of an event were given first, so they stand in front of the other
plain keys. -/
theorem exists_others {given indices plain : List String}
    (harranged : Arranged ("type" :: "timestamp" :: given) indices plain) :
    ∃ others, plain = "type" :: "timestamp" :: others := by
  have htype : "type" ∈ plain :=
    (harranged.mem_others _).mpr ⟨List.mem_cons_self, isPlainKey_type⟩
  obtain ⟨rest, rfl⟩ := exists_cons_of_least harranged.in_order htype (by simp)
  obtain ⟨hafter, hrest⟩ := List.pairwise_cons.mp harranged.in_order
  have htime : "timestamp" ∈ "type" :: rest :=
    (harranged.mem_others _).mpr ⟨by simp, isPlainKey_timestamp⟩
  have hsecond : ("type" :: "timestamp" :: given).idxOf "timestamp" = 1 := by simp
  obtain ⟨others, rfl⟩ := exists_cons_of_least hrest (List.mem_of_ne_of_mem (by decide) htime)
    (fun key hkey => hsecond ▸ Nat.one_le_of_lt (hafter key hkey))
  exact ⟨others, rfl⟩

/-- The keys behind the type and the time are in order too. -/
theorem arranged_others {given indices others : List String}
    (harranged : Arranged ("type" :: "timestamp" :: given) indices
      ("type" :: "timestamp" :: others)) :
    Arranged (given.filter isOther) indices others := by
  have hfilter : ("type" :: "timestamp" :: given).filter isOther = given.filter isOther := by
    simp [isOther]
  obtain ⟨-, hnodup, -⟩ := List.nodup_append.mp harranged.nodup
  have hother {key : String} (hkey : key ∈ others) : isOther key = true := by
    rw [isOther_iff]
    constructor
    · rintro rfl
      exact (List.nodup_cons.mp hnodup).1 (List.mem_cons_of_mem _ hkey)
    · rintro rfl
      exact (List.nodup_cons.mp (List.nodup_cons.mp hnodup).2).1 hkey
  rw [← hfilter]
  refine ⟨fun key => ?_, harranged.ascending, fun key => ?_, ?_⟩
  · rw [harranged.mem_indices, List.mem_filter, and_assoc]
    constructor
    · rintro ⟨hkey, n, hn⟩
      exact ⟨hkey, isOther_of_isIndex hn, n, hn⟩
    · rintro ⟨hkey, -, hindex⟩
      exact ⟨hkey, hindex⟩
  · rw [List.mem_filter, and_right_comm, ← harranged.mem_others]
    constructor
    · intro hkey
      exact ⟨by simp [hkey], hother hkey⟩
    · rintro ⟨hkey, hkeep⟩
      obtain ⟨hne, hne'⟩ := isOther_iff.mp hkeep
      exact List.mem_of_ne_of_mem hne' (List.mem_of_ne_of_mem hne hkey)
  · have hrest := (List.pairwise_cons.mp (List.pairwise_cons.mp harranged.in_order).2).2
    apply hrest.imp_of_mem
    intro key later hkey _ hlt
    exact idxOf_filter_lt (hother hkey) hlt

/-! ## Values -/

theorem lastGiven?_eventFields (instant : Instant) (fields : List (String × Json)) (key : String) :
    lastGiven? (("type", .string "kdotool") :: ("timestamp", .string instant.iso) :: fields) key =
      (lastGiven? fields key).or
        (if key = "timestamp" then some (.string instant.iso)
          else if key = "type" then some (.string "kdotool") else none) := by
  rw [Json.lastGiven?_cons, Json.lastGiven?_cons, Option.or_assoc]
  congr 1
  by_cases htime : key = "timestamp"
  · simp [htime]
  · simp [htime]

theorem plain_eventObject {instant : Instant} {fields : List (String × Json)}
    (hfields : ∀ field ∈ fields, Plain field.2) : Plain (eventObject instant fields) := by
  apply Plain.object
  rw [List.forall_mem_cons, List.forall_mem_cons]
  exact ⟨.string _, .string _, hfields⟩

/-- An event adds one line, which holds no other line end. It is read as an object that has
every key once. The value of a field stands for the last one given for it; the type and
the time have values of their own if no field gives them, and the time is the one that the
clock shows. Array indices come first, then the type and the time, then the other keys. -/
theorem entry_event_read_back {clock : Clock} {instant : Instant}
    (hclock : clock.instant? = some instant) {fields : List (String × Json)}
    (hfields : ∀ field ∈ fields, Plain field.2) :
    ∃ (line : String) (members : List (String × Json)),
      entry (.event clock.instant? fields) = .ok (line ++ "\n") ∧
      '\n' ∉ line.toList ∧ '\r' ∉ line.toList ∧
      Json.parse? line = some (.object members) ∧
      (members.map Prod.fst).Nodup ∧
      (∀ key last, lastGiven? fields key = some last →
        ∃ value, (key, value) ∈ members ∧ StandsFor value last) ∧
      ("type" ∉ fields.map Prod.fst → ("type", .string "kdotool") ∈ members) ∧
      ("timestamp" ∉ fields.map Prod.fst → ∃ time, ("timestamp", .string time) ∈ members ∧
        ∀ n, DenotesTime time.toList n ↔ n = instant.millis) ∧
      ∃ indices others, members.map Prod.fst = indices ++ "type" :: "timestamp" :: others ∧
        Arranged ((fields.map Prod.fst).filter isOther) indices others := by
  have hplain : Plain (eventObject instant fields) := plain_eventObject hfields
  have hreturn : '\r' ∉ (eventObject instant fields).text.toList := by
    rw [Json.text, String.toList_ofList]
    exact fun hmem => absurd (Json.uncontrolled_chars _ _ hmem) (by decide)
  obtain ⟨value, hreads, hstands⟩ := Json.exists_reads hplain
  obtain ⟨members, indices, plain, rfl, harranged, hkeys, hmembers⟩ := hstands.exists_object
  obtain ⟨others, rfl⟩ := exists_others harranged
  refine ⟨(eventObject instant fields).text, members, by rw [hclock]; rfl, Json.feed_not_mem_text _,
    hreturn, Json.parse?_of_reads hreads, hkeys ▸ harranged.nodup, ?_, ?_, ?_, indices, others,
    hkeys, arranged_others harranged⟩
  · intro key last hlast
    apply hmembers
    rw [lastGiven?_eventFields, hlast]
    rfl
  · intro hfields
    obtain ⟨value, hmember, hvalue⟩ := hmembers "type" (.string "kdotool") (by
      rw [lastGiven?_eventFields, Json.lastGiven?_eq_none hfields]
      rfl)
    rwa [hvalue.eq_string] at hmember
  · intro hfields
    obtain ⟨value, hmember, hvalue⟩ := hmembers "timestamp" (.string instant.iso) (by
      rw [lastGiven?_eventFields, Json.lastGiven?_eq_none hfields]
      rfl)
    rw [hvalue.eq_string] at hmember
    exact ⟨instant.iso, hmember, fun n => Calendar.denotesTime_iso_iff⟩

/-- Fields with keys that look like numbers, in no order, and with a type of their own that
is given twice. -/
def disorderedFields : List (String × Json) :=
  [("10", .string "a\n\"b\""), ("type", .null), ("01", .bool true),
    ("1", .number (.integer (-9007199254740991))), ("type", .string "run"),
    ("4294967295", .array [.object [("k", .null), ("0", .string "\r"), ("k", .bool false)]])]

theorem plain_disorderedFields : ∀ field ∈ disorderedFields, Plain field.2 := by
  have hnested : ∀ member ∈ [("k", Json.null), ("0", .string "\r"), ("k", .bool false)],
      Plain member.2 := by
    simp only [List.forall_mem_cons]
    exact ⟨.null, .string _, .bool _, nofun⟩
  simp only [disorderedFields, List.forall_mem_cons]
  refine ⟨.string _, .null, .bool _, .integer (by decide), .string _, .array ?_, nofun⟩
  rw [List.forall_mem_singleton]
  exact .object hnested

/-- One zero too much, or one number too large, and a key is no array index. -/
theorem arranged_disorderedFields :
    Arranged ["10", "01", "1", "4294967295"] ["1", "10"] ["01", "4294967295"] where
  mem_indices key := by
    have hkept : ["10", "01", "1", "4294967295"].filter (fun key => (Json.index? key).isSome) =
        ["10", "1"] := by decide
    simp only [← Json.index?_eq_some_iff, ← Option.isSome_iff_exists]
    apply Iff.trans _ List.mem_filter
    rw [hkept]
    exact (List.Perm.swap _ _ _).mem_iff
  ascending := by
    rw [List.pairwise_pair]
    exact ⟨1, 10, ⟨by decide, rfl⟩, ⟨by decide, rfl⟩, by decide⟩
  mem_others key := by
    have hkept : ["10", "01", "1", "4294967295"].filter (fun key => (Json.index? key).isNone) =
        ["01", "4294967295"] := by decide
    rw [← Json.index?_eq_none_iff, ← Option.isNone_iff_eq_none]
    apply Iff.trans _ List.mem_filter
    rw [hkept]
  in_order := by decide

/-- The fields above, at the start of 1970. -/
theorem entry_event_read_back_disordered :
    (∀ field ∈ disorderedFields, Plain field.2) ∧
    ∃ (line : String) (members : List (String × Json)) (time : String),
      entry (.event (Clock.instant? (some (.integer 0))) disorderedFields) = .ok (line ++ "\n") ∧
      Json.parse? line = some (.object members) ∧
      members.map Prod.fst = ["1", "10", "type", "timestamp", "01", "4294967295"] ∧
      ("10", .string "a\n\"b\"") ∈ members ∧ ("type", .string "run") ∈ members ∧
      ("timestamp", .string time) ∈ members ∧ DenotesTime time.toList 0 := by
  have hclock : Clock.instant? (some (.integer 0)) = some ⟨0, by decide⟩ := rfl
  obtain ⟨line, members, hline, -, -, hread, -, hvalues, -, htime, indices, others, hkeys,
    harranged⟩ := entry_event_read_back hclock plain_disorderedFields
  obtain ⟨rfl, rfl⟩ := harranged.unique arranged_disorderedFields
  obtain ⟨time, htime, hdenotes⟩ := htime (by decide)
  obtain ⟨text, htext, hstands⟩ := hvalues "10" (.string "a\n\"b\"") rfl
  obtain ⟨kind, hkind, hgiven⟩ := hvalues "type" (.string "run") rfl
  rw [hstands.eq_string] at htext
  rw [hgiven.eq_string] at hkind
  exact ⟨plain_disorderedFields, line, members, time, hline, hread, hkeys, htext, hkind, htime,
    (hdenotes 0).mpr rfl⟩

end WindowScript.RunLog
