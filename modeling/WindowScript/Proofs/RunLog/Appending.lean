/-
# The run log only grows

An enabled session has one log file, which its name and its start decide. What it
writes there is said here on its own, operation by operation, with the clock moving
in between; performing the session appends exactly that and leaves every other file
alone. Files are told apart by their paths only, so sessions of different names, or
of different times in one second, share a file when their paths agree, and the file
holds what each of them wrote, one after the other.

A session fails if its directory cannot be made, if its file cannot be opened, or if
the clock shows no instant at its start or at one of its events. It then leaves all
files as they were, with one exception: what it wrote before an event without an instant
is kept. So a failure takes nothing away from the log, and the sessions after it go on
from there. What the system answers about directories and files is left open.
-/

import WindowScript.Proofs.Json.OneLine
import WindowScript.RunLog.Machine

namespace WindowScript.RunLog

open WindowScript.Calendar (Clock Instant)

/-! ## What a session writes -/

/-- Whether an operation writes to the log. -/
def Operation.isWrite : Operation → Bool
  | .log _ => true
  | .event _ => true
  | .tick _ => false

/-- The lines that operations write, from what the clock shows on: a text without
its escape sequences, or the object of an event. Nothing is written from the first event
on at which the clock shows no instant. -/
def lines (clock : Clock) : List Operation → List String
  | [] => []
  | .log text :: rest => (Terminal.stripText text ++ "\n") :: lines clock rest
  | .event fields :: rest =>
      match clock.instant? with
      | some instant => ((eventObject instant fields).text ++ "\n") :: lines clock rest
      | none => []
  | .tick millis :: rest => lines (clock.advance millis) rest

/-- Whether the clock shows an instant at every event. -/
def eventsDated (clock : Clock) : List Operation → Bool
  | [] => true
  | .log _ :: rest => eventsDated clock rest
  | .event _ :: rest => clock.instant?.isSome && eventsDated clock rest
  | .tick millis :: rest => eventsDated (clock.advance millis) rest

/-- Everything that a session writes. -/
def Session.text (session : Session) : String :=
  String.join (lines session.clock session.operations)

/-- The log file of a session, which its start decides. -/
def Session.logFile? (directory : String) (session : Session) : Option String :=
  session.clock.instant?.map fun instant => Path.join directory (fileName session.name instant)

/-- The log file that a session opens: it is enabled, its directory can be made, it
starts at an instant, and the file can be opened. -/
def Session.opened? (directory : String) (session : Session) (files : Files) : Option String :=
  if session.enabled ∧ session.disk.directoryFailure? files directory = none then
    (session.logFile? directory).filter fun path =>
      session.disk.openFailure? files directory path = none
  else none

/-- If all events are dated, every write is a line of its own. -/
theorem length_lines {clock : Clock} {operations : List Operation}
    (hdated : eventsDated clock operations = true) :
    (lines clock operations).length = (operations.filter Operation.isWrite).length := by
  induction operations generalizing clock with
  | nil => rfl
  | cons operation rest ih =>
      cases operation with
      | log text =>
          rw [List.filter_cons_of_pos rfl, lines, List.length_cons, List.length_cons, ih hdated]
      | event fields =>
          rw [eventsDated, Bool.and_eq_true, Option.isSome_iff_exists] at hdated
          obtain ⟨⟨instant, hinstant⟩, hrest⟩ := hdated
          rw [List.filter_cons_of_pos rfl, lines, hinstant, List.length_cons, List.length_cons,
            ih hrest]
      | tick millis => exact ih hdated

/-- What is accepted of operations are their lines. -/
theorem accepted_effects (clock : Clock) (operations : List Operation) :
    accepted (effects clock operations) = String.join (lines clock operations) := by
  induction operations generalizing clock with
  | nil => rfl
  | cons operation rest ih =>
      cases operation with
      | log text =>
          simp only [effects, accepted, entry, ih, lines, String.join_cons]
          rfl
      | event fields =>
          cases hinstant : clock.instant? with
          | none =>
              simp only [effects, lines, hinstant, accepted, entry]
              rfl
          | some instant =>
              simp only [effects, lines, hinstant, accepted, entry, ih, String.join_cons]
              rfl
      | tick millis => exact ih _

/-- Operations fail at an event without an instant, and nowhere else. -/
theorem entryFailure?_effects (clock : Clock) (operations : List Operation) :
    entryFailure? (effects clock operations) =
      if eventsDated clock operations = true then none else some .noInstant := by
  induction operations generalizing clock with
  | nil => rfl
  | cons operation rest ih =>
      cases operation with
      | log text => exact ih clock
      | event fields =>
          cases hinstant : clock.instant? with
          | none => simp [effects, eventsDated, hinstant, entryFailure?, entry]
          | some instant => simp [effects, eventsDated, hinstant, entryFailure?, entry, ih clock]
      | tick millis => exact ih _

/-! ## Files -/

theorem contents?_append_self (path text : String) (files : Files) :
    contents? path (append path text files) = some ((contents? path files).getD "" ++ text) := by
  induction files with
  | nil => simp [append, contents?]
  | cons file files ih =>
      obtain ⟨key, content⟩ := file
      rw [append]
      split
      next hkey =>
          obtain rfl : key = path := hkey
          simp [contents?]
      next hkey =>
          have hskip : (path == key) = false := beq_false_of_ne (Ne.symm hkey)
          simp only [contents?, List.lookup_cons, hskip] at ih ⊢
          exact ih

theorem contents?_append_of_ne {path other : String} (hne : other ≠ path) (text : String)
    (files : Files) : contents? other (append path text files) = contents? other files := by
  have hskip : (other == path) = false := beq_false_of_ne hne
  induction files with
  | nil => simp [append, contents?, List.lookup_cons, hskip]
  | cons file files ih =>
      obtain ⟨key, content⟩ := file
      rw [append]
      split
      next hkey =>
          obtain rfl : key = path := hkey
          simp [contents?, List.lookup_cons, hskip]
      next =>
          simp only [contents?, List.lookup_cons] at ih ⊢
          rw [ih]

/-! ## One session -/

section

variable {directory path : String} {session : Session} {files : Files}

theorem opened?_eq_some_iff :
    session.opened? directory files = some path ↔
      session.enabled = true ∧ session.disk.directoryFailure? files directory = none ∧
        session.logFile? directory = some path ∧
        session.disk.openFailure? files directory path = none := by
  rw [Session.opened?]
  split
  next hmade =>
      rw [Option.filter_eq_some_iff]
      simp [hmade]
  next hmade =>
      refine iff_of_false nofun fun hopened => hmade ⟨hopened.1, hopened.2.1⟩

theorem logPath_eq (directory : String) (session : Session) :
    logPath directory session.name session.clock =
      match session.logFile? directory with
      | some path => .ok path
      | none => .error .noInstant := by
  rw [logPath, Session.logFile?]
  cases session.clock.instant? <;> rfl

theorem perform_of_disabled (hdisabled : session.enabled = false) (directory : String)
    (files : Files) : session.perform directory files = ⟨files, none⟩ := by
  simp [Session.perform, hdisabled]

/-- A session that opens its log file appends what it writes to it. -/
theorem perform_of_opened (hopened : session.opened? directory files = some path) :
    session.perform directory files = ⟨append path session.text files,
      if eventsDated session.clock session.operations = true then none else some .noInstant⟩ := by
  obtain ⟨henabled, hmade, hfile, hopen⟩ := opened?_eq_some_iff.mp hopened
  rw [Session.perform, if_pos henabled, hmade, logPath_eq, hfile]
  simp only [Session.write, hopen, accepted_effects, entryFailure?_effects, Session.text]

/-- An enabled session that does not open its log file fails and changes nothing. -/
theorem perform_of_unopened (henabled : session.enabled = true)
    (hunopened : session.opened? directory files = none) :
    (session.perform directory files).files = files ∧
      (session.perform directory files).failure? ≠ none := by
  rw [Session.perform, if_pos henabled, logPath_eq]
  cases hmade : session.disk.directoryFailure? files directory with
  | some failure => simp
  | none =>
      cases hfile : session.logFile? directory with
      | none => simp
      | some path =>
          cases hopen : session.disk.openFailure? files directory path with
          | some failure => simp [Session.write, hopen]
          | none =>
              have hopened := opened?_eq_some_iff.mpr ⟨henabled, hmade, hfile, hopen⟩
              exact absurd hopened (by simp [hunopened])

/-- What a session does to the files, whether it fails or not. -/
theorem files_perform (directory : String) (session : Session) (files : Files) :
    (session.perform directory files).files =
      match session.opened? directory files with
      | some path => append path session.text files
      | none => files := by
  cases hopened : session.opened? directory files with
  | some path => rw [perform_of_opened hopened]
  | none =>
      cases henabled : session.enabled with
      | true => exact (perform_of_unopened henabled hopened).1
      | false => rw [perform_of_disabled henabled]

theorem contents?_append_grows {content : String} (text : String) {other : String}
    (hcontent : contents? other files = some content) :
    ∃ more, contents? other (append path text files) = some (content ++ more) := by
  by_cases hother : other = path
  · subst hother
    exact ⟨text, by simp [contents?_append_self, hcontent]⟩
  · exact ⟨"", by simpa [contents?_append_of_ne hother] using hcontent⟩

/-- No file loses anything in a session. -/
theorem contents?_perform_grows (directory : String) (session : Session) {content : String}
    (hcontent : contents? path files = some content) :
    ∃ more, contents? path (session.perform directory files).files = some (content ++ more) := by
  rw [files_perform]
  split
  · exact contents?_append_grows _ hcontent
  · exact ⟨"", by simpa using hcontent⟩

theorem contents?_perform_self (hopened : session.opened? directory files = some path) :
    contents? path (session.perform directory files).files =
      some ((contents? path files).getD "" ++ session.text) := by
  rw [perform_of_opened hopened, contents?_append_self]

theorem contents?_perform_of_ne (hopened : session.opened? directory files ≠ some path) :
    contents? path (session.perform directory files).files = contents? path files := by
  rw [files_perform]
  split
  next file hfile =>
      refine contents?_append_of_ne (fun heq => hopened ?_) _ _
      rw [hfile, heq]
  next => rfl

/-- Without a directory no log file is opened. -/
theorem opened?_of_barred (session : Session)
    (hbarred : directory = "" ∨ '\x00' ∈ directory.toList ∨
      ∃ file, contents? file files ≠ none ∧ Directory.InTheWay file directory) :
    session.opened? directory files = none := by
  have hrefused : session.disk.directoryFailure? files directory ≠ none := by
    rcases hbarred with rfl | hnull | ⟨file, hfile, hway⟩
    · exact session.disk.empty_refused files
    · exact session.disk.nullByte_refused files directory hnull
    · exact session.disk.file_refused files file directory hfile hway
  rw [Session.opened?, if_neg fun hmade => hrefused hmade.2]

end

/-- What a session does to the log files and how it ends. -/
structure Session.Appends (directory : String) (session : Session) (before : Files)
    (ended : Ended) : Prop where
  /-- No file loses anything. -/
  grows : ∀ path content, contents? path before = some content →
    ∃ more, contents? path ended.files = some (content ++ more)
  /-- A session that is not enabled does nothing. -/
  disabled : session.enabled = false → ended = ⟨before, none⟩
  /-- A session that opens its log file appends its lines to it, and changes no other file.
  It fails exactly if an event is not dated; otherwise its lines are one for each write. -/
  opened : ∀ path, session.opened? directory before = some path →
    (∃ instant, session.clock.instant? = some instant ∧
      path = Path.join directory (fileName session.name instant)) ∧
    contents? path ended.files = some ((contents? path before).getD "" ++
      String.join (lines session.clock session.operations)) ∧
    (∀ other, other ≠ path → contents? other ended.files = contents? other before) ∧
    if eventsDated session.clock session.operations = true then
      ended.failure? = none ∧ (lines session.clock session.operations).length =
        (session.operations.filter Operation.isWrite).length
    else ended.failure? = some .noInstant
  /-- An enabled session that opens none fails and does nothing. -/
  unopened : session.enabled = true → session.opened? directory before = none →
    ended.files = before ∧ ended.failure? ≠ none
  /-- None is opened if the directory has no path, or one with a null byte, or if a log file
  is in its way. -/
  barred : (directory = "" ∨ '\x00' ∈ directory.toList ∨
    ∃ file, contents? file before ≠ none ∧ Directory.InTheWay file directory) →
      session.opened? directory before = none

theorem appends_perform (directory : String) (session : Session) (before : Files) :
    session.Appends directory before (session.perform directory before) where
  grows _ _ hcontent := contents?_perform_grows directory session hcontent
  disabled hdisabled := perform_of_disabled hdisabled directory before
  opened path hopened := by
    obtain ⟨-, -, hfile, -⟩ := opened?_eq_some_iff.mp hopened
    obtain ⟨instant, hinstant, hpath⟩ := Option.map_eq_some_iff.mp hfile
    rw [perform_of_opened hopened]
    refine ⟨⟨instant, hinstant, hpath.symm⟩, contents?_append_self path _ before,
      fun other hother => contents?_append_of_ne hother _ before, ?_⟩
    split
    next hdated => exact ⟨rfl, length_lines hdated⟩
    next => rfl
  unopened henabled hunopened := perform_of_unopened henabled hunopened
  barred := opened?_of_barred session

/-! ## All sessions -/

/-- The files before each session, and after the last one. -/
def states (directory : String) (files : Files) (sessions : List Session) : List Files :=
  files :: (performAll directory files sessions).map Ended.files

/-- What sessions write to a file, in order, each with the files that it found. -/
def chunks (directory path : String) (found : List Files) (sessions : List Session) :
    List String :=
  ((found.zip sessions).filter fun pair => pair.2.opened? directory pair.1 = some path).map
    fun pair => pair.2.text

theorem states_cons (directory : String) (files : Files) (session : Session)
    (sessions : List Session) :
    states directory files (session :: sessions) =
      files :: states directory (session.perform directory files).files sessions := rfl

theorem length_performAll (directory : String) (files : Files) (sessions : List Session) :
    (performAll directory files sessions).length = sessions.length := by
  induction sessions generalizing files with
  | nil => rfl
  | cons session sessions ih => rw [performAll, List.length_cons, List.length_cons, ih]

/-- Each session is performed on what the sessions before it left. -/
theorem eq_perform_of_performAll {directory : String} {sessions : List Session} {files : Files}
    {k : Nat} {session : Session} {before : Files} {ended : Ended}
    (hsession : sessions[k]? = some session)
    (hbefore : (states directory files sessions)[k]? = some before)
    (hended : (performAll directory files sessions)[k]? = some ended) :
    ended = session.perform directory before := by
  induction sessions generalizing files k with
  | nil => simp at hsession
  | cons first sessions ih =>
      cases k with
      | zero =>
          obtain rfl : first = session := Option.some.inj hsession
          obtain rfl : files = before := Option.some.inj hbefore
          exact (Option.some.inj hended).symm
      | succ k => exact ih hsession hbefore hended

theorem chunks_states_cons (directory path : String) (files : Files) (session : Session)
    (sessions : List Session) :
    chunks directory path (states directory files (session :: sessions)) (session :: sessions) =
      (if session.opened? directory files = some path then [session.text] else []) ++
        chunks directory path (states directory (session.perform directory files).files sessions)
          sessions := by
  rw [states_cons, chunks, List.zip_cons_cons]
  by_cases hopened : session.opened? directory files = some path
  · rw [List.filter_cons_of_pos (by simpa using hopened), if_pos hopened]
    rfl
  · rw [List.filter_cons_of_neg (by simpa using hopened), if_neg hopened]
    rfl

/-- A file holds what it held at first, and then what every session wrote to it. -/
theorem contents?_states (directory path : String) (files : Files) (sessions : List Session) :
    contents? path ((states directory files sessions).getLast?.getD files) =
      if chunks directory path (states directory files sessions) sessions = [] then
        contents? path files
      else some ((contents? path files).getD "" ++
        String.join (chunks directory path (states directory files sessions) sessions)) := by
  induction sessions generalizing files with
  | nil => simp [states, performAll, chunks]
  | cons session sessions ih =>
      have hlast : (states directory files (session :: sessions)).getLast?.getD files =
          (states directory (session.perform directory files).files sessions).getLast?.getD
            (session.perform directory files).files := by
        simp [states, performAll, List.getLast?_cons]
      rw [hlast, ih, chunks_states_cons]
      -- Only a session that opened this very file has changed its contents.
      by_cases hopened : session.opened? directory files = some path
      · rw [if_pos hopened, List.singleton_append, if_neg (List.cons_ne_nil _ _),
          contents?_perform_self hopened, Option.getD_some, String.join_cons, String.append_assoc]
        split
        next hlater => simp [hlater]
        next => rfl
      · rw [if_neg hopened, List.nil_append, contents?_perform_of_ne hopened]

/-- Sessions are performed one after the other, whether they fail or not, each on the
files that the ones before it left, and each of them only appends to these. In the end a
file holds what it held at first and what the sessions that opened it wrote, in their
order. An event is one line, whatever its fields hold. -/
theorem performAll_appends (directory : String) (sessions : List Session) (files : Files) :
    (performAll directory files sessions).length = sessions.length ∧
    (∀ (k : Nat) (session : Session) (before : Files) (ended : Ended),
      sessions[k]? = some session → (states directory files sessions)[k]? = some before →
        (performAll directory files sessions)[k]? = some ended →
          session.Appends directory before ended) ∧
    (∀ path, contents? path ((states directory files sessions).getLast?.getD files) =
      if chunks directory path (states directory files sessions) sessions = [] then
        contents? path files
      else some ((contents? path files).getD "" ++
        String.join (chunks directory path (states directory files sessions) sessions))) ∧
    ∀ instant fields, '\n' ∉ (eventObject instant fields).text.toList := by
  refine ⟨length_performAll directory files sessions, ?_, ?_, ?_⟩
  · intro k session before ended hsession hbefore hended
    rw [eq_perform_of_performAll hsession hbefore hended]
    exact appends_perform directory session before
  · intro path
    exact contents?_states directory path files sessions
  · intro instant fields
    exact Json.feed_not_mem_text _

/-- A machine with one file besides the log files. -/
def machine : Machine where
  working := ["home"]
  obstacle? place := if place = ["dev", "null"] then some .file else none

/-- A session that starts at the beginning of the calendar's count. -/
def started (name : String) (operations : List Operation) : Session :=
  { clock := some (.integer 0), enabled := true, name, operations, disk := machine.disk }

/-- A session that fails at its second event. -/
def interrupted : Session :=
  started "a b" [.log "\u001b[1mone\u001b[0m", .tick (.integer 5000), .event [],
    .tick (.integer 8640000000000000), .event [], .log "lost"]

/-- Sessions of one second, with names that lead to one file. The second one is not
enabled. -/
def sharing : List Session :=
  [interrupted,
   { started "a b" [.log "none"] with clock := none, enabled := false },
   { started "x/a_b" [.event [("timestamp", .string "\n")], .log "two\n"] with
     clock := some (.integer 999) }]

theorem performAll_appends_sharing :
    let files := [("logs/a_b-1970-01-01T00-00-00.log", "zero\n")]
    (performAll "logs" files sharing).map Ended.failure? = [some .noInstant, none, none] ∧
    interrupted.Appends "logs" files (interrupted.perform "logs" files) ∧
    contents? "logs/a_b-1970-01-01T00-00-00.log"
        ((states "logs" files sharing).getLast?.getD files) =
      some ("zero\none\n" ++
        "\x7b\"type\":\"kdotool\",\"timestamp\":\"1970-01-01T00:00:05.000Z\"\x7d\n" ++
        "\x7b\"type\":\"kdotool\",\"timestamp\":\"\\n\"\x7d\ntwo\n\n") := by
  intro files
  obtain ⟨-, hsession, hcontents, -⟩ := performAll_appends "logs" sharing files
  refine ⟨by decide +kernel, hsession 0 _ _ _ rfl rfl rfl, ?_⟩
  rw [hcontents]
  decide +kernel

/-- A valid start is not enough. A session fails if its clock has left the calendar
when an event is written, even if the event gives its own time. It also fails if its
directory is a file, or its log file a directory. -/
theorem performAll_fails :
    (started "search" []).clock.instant?.isSome = true ∧
    performAll "logs" [] [started "search" [.tick (.integer 8640000000000001),
        .event [("timestamp", .string "late")]]] =
      [⟨[("logs/search-1970-01-01T00-00-00.log", "")], some .noInstant⟩] ∧
    performAll "/dev/null" [] [started "search" []] = [⟨[], some (.existingFile "/dev/null")⟩] ∧
    performAll "search-1970-01-01T00-00-00.log/.." [] [started "search" []] =
      [⟨[], some (.openedDirectory "search-1970-01-01T00-00-00.log")⟩] := by
  decide +kernel

end WindowScript.RunLog
