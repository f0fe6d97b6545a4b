/-
# A machine without links

On a machine without links a path leads to one place, which its names decide. What stands
at the places of such a machine, and what the system refuses there, decides how it
answers to a session. Log files stand at their places too.
-/

import WindowScript.RunLog.Session

namespace WindowScript.RunLog

open WindowScript.Directory (Made Obstacle Place locate)

/-- A machine: the working directory, why there can be no directory at a place, and why
a file there cannot be opened. -/
structure Machine where
  working : Place := []
  obstacle? : Place → Option Obstacle := fun _ => none
  refusal? : Place → Option String := fun _ => none

namespace Machine

variable (machine : Machine)

/-- What is in the way of a directory at a place, with the log files there are. -/
def standing? (files : Files) (place : Place) : Option Obstacle :=
  if files.any fun file => locate machine.working file.1 == place then some .file
  else machine.obstacle? place

/-- Make a directory on a machine. -/
def make (files : Files) (directory : String) : Made :=
  Directory.make machine.working (machine.standing? files) directory

/-- Why a log file cannot be opened: its name or its path is too long, it is one of the
directories that were made, or the system refuses. -/
def openFailure? (files : Files) (directory path : String) : Option Failure :=
  let place := locate machine.working path
  if Directory.maxName < (String.ofList (Path.basename path.toList)).utf8ByteSize ∨
      Directory.maxPath < path.utf8ByteSize then some (.unopened path)
  else if (machine.make files directory).places.contains place then some (.openedDirectory path)
  else (machine.refusal? place).map fun reason => .reported (reason ++ ", open '" ++ path ++ "'")

theorem standing?_ne_none {files : Files} {file : String} (hfile : contents? file files ≠ none) :
    machine.standing? files (locate machine.working file) ≠ none := by
  have hany : (files.any fun other => locate machine.working other.1 ==
      locate machine.working file) = true := by
    obtain ⟨content, hcontent⟩ := Option.ne_none_iff_exists'.mp hfile
    obtain ⟨before, after, rfl, -⟩ := List.lookup_eq_some_iff.mp hcontent
    simp
  simp [standing?, hany]

/-- How a machine answers. -/
def disk : Disk where
  directoryFailure? files directory := (machine.make files directory).failure?
  openFailure? := machine.openFailure?
  empty_refused _ := Directory.failure?_make_ne_none (.inr (.inl rfl))
  nullByte_refused _ _ hnull := Directory.failure?_make_ne_none (.inl hnull)
  file_refused _ _ _ hfile hway :=
    Directory.failure?_make_of_inTheWay hway (machine.standing?_ne_none hfile)

/-- A path leads to a place from the working directory on. A log file is in the way, also
of a path that spells its place in another way. -/
example :
    let machine : Machine := { working := ["home"] }
    (machine.make [("logs", "old")] "dev/logs").failure? = none ∧
    (machine.make [("logs", "old")] "./logs").failure? = some (.existingFile "./logs") := by
  decide +kernel

end Machine

end WindowScript.RunLog
