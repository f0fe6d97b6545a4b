/-
# Script files

Every run has a directory of its own for its script. The name of the directory is
made up of a fixed start and six letters or digits that no other run has, and
serves as the marker of the run. Removing the directory is final.
-/

import WindowScript.Path
import WindowScript.Run.Failure

namespace WindowScript

/-- How the directory of every run starts. -/
def markerPrefix : String := "kdotool-"

/-- The name of the script in its directory. -/
def scriptName : String := "script.js"

/-- The script file of a run. -/
structure ScriptFile where
  marker : String
  path : String
  deriving DecidableEq, Repr

namespace ScriptFile

/-- A marker: the fixed start and six letters or digits. -/
def isMarker (name : String) : Bool :=
  name.toList.take markerPrefix.length = markerPrefix.toList &&
    (name.toList.drop markerPrefix.length).length = 6 &&
    (name.toList.drop markerPrefix.length).all Char.isAlphanum

/-- The script file in the directory with the given last characters. -/
def inDirectory (parent suffix : String) : ScriptFile :=
  let directory := Path.join parent (markerPrefix ++ suffix)
  { marker := String.ofList (Path.basename directory.toList)
    path := Path.join directory scriptName }

/-- What is on disk: the directories that are there, and the texts of files by
their paths, the last one written first. -/
structure Disk where
  directories : List String := []
  texts : List (String × String) := []
  deriving DecidableEq, Repr

namespace Disk

/-- Whether a path is that of a directory or leads into it. -/
def isWithin (directory path : String) : Bool :=
  path = directory || (directory.toList ++ ['/']).isPrefixOf path.toList

/-- Make a directory. -/
def make (disk : Disk) (directory : String) : Disk :=
  { disk with directories := directory :: disk.directories }

/-- Write a file in a directory. Without the directory there is no file. -/
def write? (disk : Disk) (directory path text : String) : Option Disk :=
  if directory ∈ disk.directories then
    some { disk with texts := (path, text) :: disk.texts }
  else none

/-- Remove a directory with everything in it. -/
def remove (disk : Disk) (directory : String) : Disk where
  directories := disk.directories.filter fun found => !isWithin directory found
  texts := disk.texts.filter fun file => !isWithin directory file.1

/-- The text of a file. -/
def text? (disk : Disk) (path : String) : Option String := disk.texts.lookup path

end Disk

/-- A script file that was made, with its directory. -/
structure Made where
  directory : String
  file : ScriptFile
  deriving DecidableEq, Repr

/-- What is made under `parent` in a directory with the given last characters. -/
def madeIn (parent suffix : String) : Made where
  directory := Path.join parent (markerPrefix ++ suffix)
  file := inDirectory parent suffix

/-- All script files made so far, in order, and the disk they are on. -/
structure Store where
  files : List Made := []
  disk : Disk := {}
  deriving DecidableEq, Repr

namespace Store

/-- Whether the directory of a script file is there. -/
def isPresent (store : Store) (made : Made) : Bool := made.directory ∈ store.disk.directories

/-- The script in a script file. -/
def contents? (store : Store) (made : Made) : Option String := store.disk.text? made.file.path

/-- Make a script file in a directory under `parent`, whose name is not yet
taken. Without its parent directory there is no script file. -/
def create (store : Store) (parentExists : Bool) (parent suffix : String) :
    Store × Option Failure :=
  if parentExists then
    let made := madeIn parent suffix
    (⟨store.files ++ [made], store.disk.make made.directory⟩, none)
  else (store, some (.noParent (Path.join parent markerPrefix ++ "XXXXXX")))

/-- Write the script of a file. This fails once the directory is gone, and never
brings it back. -/
def write (store : Store) (i : Nat) (text : String) : Store × Option Failure :=
  match store.files[i]? with
  | none => (store, none)
  | some made =>
      match store.disk.write? made.directory made.file.path text with
      | some disk => ({ store with disk := disk }, none)
      | none => (store, some (.removedFile made.file.path))

/-- Remove a file with its directory. Removing it again changes nothing. -/
def remove (store : Store) (i : Nat) : Store :=
  match store.files[i]? with
  | none => store
  | some made => { store with disk := store.disk.remove made.directory }

end Store

end ScriptFile

end WindowScript
