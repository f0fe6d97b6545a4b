/-
# Paths

Just enough of file paths: joining a directory and a name, and the last part of a
path. A joined path is in normal form: no empty parts, no single dots, and double
dots only where there is nothing to go back to.
-/

namespace WindowScript.Path

/-- The parts of a path between its slashes. -/
def parts (path : List Char) : List (List Char) :=
  path.foldr
    (fun c found =>
      if c = '/' then [] :: found
      else match found with
        | [] => [[c]]
        | part :: rest => (c :: part) :: rest)
    [[]]

@[simp]
theorem parts_nil : parts [] = [[]] := rfl

@[simp]
theorem parts_slash (cs : List Char) : parts ('/' :: cs) = [] :: parts cs := by
  simp [parts]

theorem parts_cons_of_ne {c : Char} (hc : c ≠ '/') (cs : List Char) :
    parts (c :: cs) = match parts cs with
      | [] => [[c]]
      | part :: rest => (c :: part) :: rest := by
  rw [parts, List.foldr_cons, if_neg hc]
  rfl

theorem parts_ne_nil (cs : List Char) : parts cs ≠ [] := by
  induction cs with
  | nil => simp
  | cons c cs ih =>
      by_cases hc : c = '/'
      · simp [hc]
      · rw [parts_cons_of_ne hc]
        split <;> simp

theorem parts_append_slash (first second : List Char) :
    parts (first ++ '/' :: second) = parts first ++ parts second := by
  induction first with
  | nil => simp
  | cons c first ih =>
      by_cases hc : c = '/'
      · simp [hc, ih]
      · rw [List.cons_append, parts_cons_of_ne hc, parts_cons_of_ne hc, ih]
        cases hfirst : parts first with
        | nil => exact absurd hfirst (parts_ne_nil first)
        | cons part rest => rfl

/-- Go into a part, from the parts gone into so far, which are held last first.
Nothing lies above the root of an absolute path. -/
def enter (isAbsolute : Bool) (done : List (List Char)) (part : List Char) :
    List (List Char) :=
  if part = [] ∨ part = ['.'] then done
  else if part = ['.', '.'] then
    match done with
    | [] => if isAbsolute then [] else [part]
    | last :: outer => if last = ['.', '.'] then part :: done else outer
  else part :: done

/-- The normal form of a path. -/
def normalize (path : List Char) : List Char :=
  let isAbsolute := path.head? = some '/'
  let body := List.intercalate ['/'] ((parts path).foldl (enter isAbsolute) []).reverse
  if isAbsolute then '/' :: body else if body = [] then ['.'] else body

/-- A name inside a directory. No directory at all is the current one. -/
def join (directory name : String) : String :=
  String.ofList (normalize
    (if directory = "" then name.toList else directory.toList ++ '/' :: name.toList))

/-- The last part of a path, slashes at its end apart. -/
def basename (path : List Char) : List Char :=
  ((path.reverse.dropWhile (· = '/')).takeWhile (· ≠ '/')).reverse

end WindowScript.Path
