/-
# Directories

A directory is made together with the directories on the way to it. The way is
walked part by part, from the root or from the working directory; an empty part
or a single dot stays, a double dot goes back, and any other part is gone into,
and made where it is missing. So a part that is left again at once by a double dot
is made too. What stands in the way is for the machine to say: a file cannot be gone
into, and the system may refuse for reasons of its own. A name or a whole path can be
too long, and no path is empty or holds a null byte. What was made before such a
failure stays.
-/

import WindowScript.Path
import WindowScript.Run.Failure

namespace WindowScript.Directory

/-- A place in the file system: the names from the root down to it. -/
abbrev Place := List String

/-- The parts of a path, as names. -/
def names (path : String) : List String := (Path.parts path.toList).map String.ofList

/-- Where a path starts. -/
def origin (working : Place) (path : String) : Place :=
  if path.toList.head? = some '/' then [] else working

/-- Go from a place into a part. The root is its own parent. -/
def enter (here : Place) (part : String) : Place :=
  if part = "" ∨ part = "." then here
  else if part = ".." then here.dropLast
  else here ++ [part]

/-- The place that a path leads to. -/
def locate (working : Place) (path : String) : Place :=
  (names path).foldl enter (origin working path)

/-- The most bytes of a name. -/
def maxName : Nat := 255

/-- The most bytes of a path. -/
def maxPath : Nat := 4095

/-- Why there can be no directory at a place: something stands there that is none, or
the system refuses, in its own words. -/
inductive Obstacle
  | file
  | refused (reason : String)
  deriving DecidableEq, Repr

/-- What the user reads about an obstacle on the way along a path, with `rest` still to
come. -/
def Obstacle.failure (path : String) (rest : List String) : Obstacle → Failure
  | .file => if rest = [] then .existingFile path else .notDirectory path
  | .refused reason => .reported (reason ++ ", mkdir '" ++ path ++ "'")

/-- What came of making a directory: the places gone into, which are directories
now, and the place it led to. -/
structure Made where
  places : List Place
  outcome : Except Failure Place

/-- Why a directory was not made. -/
def Made.failure? (made : Made) : Option Failure :=
  match made.outcome with
  | .error failure => some failure
  | .ok _ => none

/-- Walk on from a place, making what is missing. -/
def walk (obstacle? : Place → Option Obstacle) (path : String) (here : Place) :
    List String → Made
  | [] => ⟨[], .ok here⟩
  | part :: rest =>
      if maxName < part.utf8ByteSize then ⟨[], .error (.nameTooLong path)⟩
      else match obstacle? (enter here part) with
        | some obstacle => ⟨[], .error (obstacle.failure path rest)⟩
        | none =>
            let further := walk obstacle? path (enter here part) rest
            ⟨enter here part :: further.places, further.outcome⟩

/-- Make the directory at a path. -/
def make (working : Place) (obstacle? : Place → Option Obstacle) (path : String) : Made :=
  if path.toList.contains '\x00' then ⟨[], .error (.nullByte path)⟩
  else if path = "" then ⟨[], .error (.noPath path)⟩
  else if maxPath < path.utf8ByteSize then ⟨[], .error (.nameTooLong path)⟩
  else walk obstacle? path (origin working path) (names path)

/-- A file is in the way of a directory: it stands at its path or above it. -/
def InTheWay (file directory : String) : Prop :=
  file ≠ "" ∧ (directory = file ∨ ∃ rest, directory = file ++ "/" ++ rest)

/-- The names that lead from a directory to a place below it. -/
def below? : Place → Place → Option Place
  | [], place => some place
  | _ :: _, [] => none
  | outer :: directory, name :: place =>
      if outer = name then below? directory place else none

/-- The path of a place, from the root. -/
def text (place : Place) : String := "/" ++ String.intercalate "/" place

/-! ## What cannot be made -/

theorem names_append_slash (file rest : String) :
    names (file ++ "/" ++ rest) = names file ++ names rest := by
  have htext : (file ++ "/" ++ rest).toList = file.toList ++ '/' :: rest.toList := by simp
  rw [names, htext, Path.parts_append_slash, List.map_append]
  rfl

theorem names_ne_nil (path : String) : names path ≠ [] := by
  rw [names, ne_eq, List.map_eq_nil_iff]
  exact Path.parts_ne_nil path.toList

theorem origin_append_slash (working : Place) {file : String} (hfile : file ≠ "")
    (rest : String) : origin working (file ++ "/" ++ rest) = origin working file := by
  have hhead : (file ++ "/" ++ rest).toList.head? = file.toList.head? := by
    cases hcs : file.toList with
    | nil => exact absurd (String.toList_eq_nil_iff.mp hcs) hfile
    | cons c cs => simp [hcs]
  rw [origin, origin, hhead]

variable {working : Place} {obstacle? : Place → Option Obstacle}

/-- A walk fails at the latest where something is in its way. -/
theorem failure?_walk_ne_none {path : String} {here : Place} {front : List String}
    (hfront : front ≠ []) (hobstacle : obstacle? (front.foldl enter here) ≠ none)
    (rest : List String) : (walk obstacle? path here (front ++ rest)).failure? ≠ none := by
  induction front generalizing here with
  | nil => exact absurd rfl hfront
  | cons part front ih =>
      rw [List.cons_append, walk]
      split
      · simp [Made.failure?]
      · split
        · simp [Made.failure?]
        next hnone =>
            cases front with
            | nil => exact absurd hnone hobstacle
            | cons next front => exact ih (List.cons_ne_nil next front) hobstacle

/-- A directory is not made if its path is refused, or the walk along it fails. -/
theorem failure?_make_ne_none {path : String}
    (hfails : '\x00' ∈ path.toList ∨ path = "" ∨
      (walk obstacle? path (origin working path) (names path)).failure? ≠ none) :
    (make working obstacle? path).failure? ≠ none := by
  unfold make
  split
  · simp [Made.failure?]
  next hnull =>
      split
      · simp [Made.failure?]
      next hempty =>
          split
          · simp [Made.failure?]
          · rcases hfails with hfails | hfails | hfails
            · exact absurd (List.contains_iff_mem.mpr hfails) hnull
            · exact absurd hfails hempty
            · exact hfails

/-- A directory is not made where a file is in the way. -/
theorem failure?_make_of_inTheWay {file directory : String} (hway : InTheWay file directory)
    (hobstacle : obstacle? (locate working file) ≠ none) :
    (make working obstacle? directory).failure? ≠ none := by
  obtain ⟨hfile, hdirectory⟩ := hway
  apply failure?_make_ne_none
  right; right
  rcases hdirectory with rfl | ⟨rest, rfl⟩
  · rw [← List.append_nil (names directory)]
    exact failure?_walk_ne_none (names_ne_nil _) hobstacle []
  · rw [names_append_slash, origin_append_slash working hfile]
    exact failure?_walk_ne_none (names_ne_nil _) hobstacle (names rest)

end WindowScript.Directory
