/-
# Sessions of the run log

A session appends to one log file, which is chosen when the session starts. A
session that is not enabled writes nothing and makes no file. Files are only ever
appended to.

Whether the directory can be made and the file can be opened is for the system to say,
with what is on the machine at that time. A session may fail there, or at an event
without an instant. What it wrote before such an event still reaches its file when it is
closed, and the next session finds it there.
-/

import WindowScript.Directory
import WindowScript.RunLog.Entry
import WindowScript.RunLog.FileName

namespace WindowScript.RunLog

open WindowScript.Calendar (Clock)

/-- Log files and their contents, by path. -/
abbrev Files := List (String × String)

/-- Append to a file, which is made if it is not there. -/
def append (path text : String) : Files → Files
  | [] => [(path, text)]
  | file :: rest =>
      if file.1 = path then (path, file.2 ++ text) :: rest else file :: append path text rest

/-- The contents of a file. -/
def contents? (path : String) (files : Files) : Option String := files.lookup path

/-- How the system answers, given the log files that are there. Its answers depend on
the working directory, on what else is on the machine and on what the user may do. -/
structure Disk where
  /-- Why a directory cannot be made together with those on the way to it. -/
  directoryFailure? : Files → String → Option Failure
  /-- Why a file cannot be opened to append to it, once the given directory is made. -/
  openFailure? : Files → String → String → Option Failure
  /-- No directory has an empty path. -/
  empty_refused : ∀ files, directoryFailure? files "" ≠ none
  /-- No path holds a null byte. -/
  nullByte_refused : ∀ files directory, '\x00' ∈ directory.toList →
    directoryFailure? files directory ≠ none
  /-- A log file is no directory. -/
  file_refused : ∀ files file directory, contents? file files ≠ none →
    Directory.InTheWay file directory → directoryFailure? files directory ≠ none

/-- Something that happens in a session. -/
inductive Operation
  | log (text : String)
  | event (fields : List (String × Json))
  | tick (millis : Number)

/-- The effects of operations, from what the clock shows on. -/
def effects (clock : Clock) : List Operation → List Effect
  | [] => []
  | .log text :: rest => .log text :: effects clock rest
  | .event fields :: rest => .event clock.instant? fields :: effects clock rest
  | .tick millis :: rest => effects (clock.advance millis) rest

/-- A session of the run log, with the disk as it is while the session lasts. -/
structure Session where
  clock : Clock
  enabled : Bool
  name : String
  operations : List Operation
  disk : Disk

/-- The path of a session's log file. -/
def logPath (directory name : String) (clock : Clock) : Except Failure String :=
  (fileNameAt name clock.instant?).map (Path.join directory)

/-- How a session ended: the log files after it, and why it failed, if it did. -/
structure Ended where
  files : Files
  failure? : Option Failure
  deriving DecidableEq

/-- Write to a log file. It is opened in the background, so that an event without an
instant is reported and not a file that cannot be opened. What was written before the
event is appended. -/
def Session.write (directory path : String) (session : Session) (files : Files) : Ended :=
  let done := effects session.clock session.operations
  match session.disk.openFailure? files directory path with
  | some failure => ⟨files, some ((entryFailure? done).getD failure)⟩
  | none => ⟨append path (accepted done) files, entryFailure? done⟩

/-- Perform a session on the log files. An enabled session makes the directory
first. -/
def Session.perform (directory : String) (session : Session) (files : Files) : Ended :=
  if session.enabled then
    match session.disk.directoryFailure? files directory with
    | some failure => ⟨files, some failure⟩
    | none =>
        match logPath directory session.name session.clock with
        | .error failure => ⟨files, some failure⟩
        | .ok path => session.write directory path files
  else ⟨files, none⟩

/-- Perform sessions one after the other, after failures too, and tell how each of
them ended. -/
def performAll (directory : String) (files : Files) : List Session → List Ended
  | [] => []
  | session :: rest =>
      let ended := session.perform directory files
      ended :: performAll directory ended.files rest

end WindowScript.RunLog
