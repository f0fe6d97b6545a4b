/-
# Log file names

A log file is named after the command of the run and the second it started in.
Everything in the command that is not a letter, a digit, an underscore, a dot or
a dash becomes an underscore, one for each sixteen-bit unit.
-/

import WindowScript.Calendar.Instant
import WindowScript.Path
import WindowScript.Run.Failure
import WindowScript.Text.Units

namespace WindowScript.RunLog

open WindowScript.Calendar (Instant)

/-- Characters that a log file name keeps. -/
def isKept (c : Char) : Bool := c.isAlphanum || c = '_' || c = '.' || c = '-'

/-- A character as it stands in a log file name. -/
def keep (c : Char) : List Char :=
  if isKept c then [c] else List.replicate (Text.units c).length '_'

/-- The command in a log file name: the last part of its path. -/
def commandPart (name : String) : List Char := (Path.basename name.toList).flatMap keep

/-- The time in a log file name: the first nineteen characters of the
international format, with dashes in place of colons. -/
def stamp (instant : Instant) : List Char :=
  (instant.iso.toList.take 19).map fun c => if c = ':' then '-' else c

/-- The log file name of a run. -/
def fileName (name : String) (instant : Instant) : String :=
  String.ofList (commandPart name ++ '-' :: stamp instant) ++ ".log"

/-- The log file name of a run started when the clock showed this. -/
def fileNameAt (name : String) (instant : Option Instant) : Except Failure String :=
  match instant with
  | some instant => .ok (fileName name instant)
  | none => .error .noInstant

end WindowScript.RunLog
