/-
# Where joined paths lead

A path leads to a place: it is walked part by part, from the root or from the working
directory. Its normal form is made without walking, on a stack of parts. Both agree step
by step, because a double dot takes away what going into a name has added. So a path and
its normal form lead to the same place, and a name that is joined to a directory leads
into that directory, by one step.
-/

import WindowScript.Directory
import WindowScript.Proofs.Path.Normal

namespace WindowScript.Directory

open WindowScript.Path (IsName Settled resolved isAbsolute)

/-- Where a stack of parts leads from a place. -/
def descend (start : Place) (done : List (List Char)) : Place :=
  (done.reverse.map String.ofList).foldl enter start

theorem descend_cons (start : Place) (part : List Char) (done : List (List Char)) :
    descend start (part :: done) = enter (descend start done) (String.ofList part) := by
  simp [descend]

theorem enter_of_isName {name : List Char} (hname : IsName name) (here : Place) :
    enter here (String.ofList name) = here ++ [String.ofList name] := by
  have hne (other : List Char) (hother : name ≠ other) :
      String.ofList name ≠ String.ofList other := by
    rwa [Ne, String.ofList_inj]
  have hempty : String.ofList name ≠ "" := hne [] hname.ne_nil
  have hdot : String.ofList name ≠ "." := hne ['.'] hname.ne_dot
  have hup : String.ofList name ≠ ".." := hne ['.', '.'] hname.ne_up
  rw [enter, if_neg (not_or.mpr ⟨hempty, hdot⟩), if_neg hup]

theorem enter_up (here : Place) : enter here ".." = here.dropLast := by
  rw [enter, if_neg (by decide), if_pos rfl]

/-- Going back on a stack is going back from its place. Only the root of an absolute path
has nothing behind it on both sides. -/
theorem descend_enter_up {absolute : Bool} {start : Place} {done : List (List Char)}
    (hstart : absolute = true → start = []) (hdone : Settled absolute done) :
    descend start (Path.enter absolute done ['.', '.']) = enter (descend start done) ".." := by
  rw [Path.enter.eq_def, if_neg (by decide), if_pos rfl]
  cases done with
  | nil =>
      cases absolute with
      | true =>
          rw [hstart rfl]
          rfl
      | false => rfl
  | cons last outer =>
      dsimp only
      split
      · exact descend_cons start ['.', '.'] (last :: outer)
      next hlast =>
          have hname : IsName last := by
            obtain ⟨names, ups, hsplit, hnames, -⟩ := hdone
            cases names with
            | nil =>
                have hup : last ∈ List.replicate ups ['.', '.'] := by
                  rw [← List.nil_append (List.replicate _ _), ← hsplit]
                  exact List.mem_cons_self
                exact absurd (List.eq_of_mem_replicate hup) hlast
            | cons name names =>
                obtain ⟨rfl, -⟩ := List.cons.inj hsplit
                exact hnames last List.mem_cons_self
          rw [descend_cons, enter_of_isName hname, enter_up, List.dropLast_concat]

/-- One step on a stack is one step from its place. -/
theorem descend_enter {absolute : Bool} {start : Place} {done : List (List Char)}
    (hstart : absolute = true → start = []) (hdone : Settled absolute done) (part : List Char) :
    descend start (Path.enter absolute done part) =
      enter (descend start done) (String.ofList part) := by
  by_cases hstay : part = [] ∨ part = ['.']
  · have hsame : enter (descend start done) (String.ofList part) = descend start done := by
      rcases hstay with rfl | rfl <;> rfl
    rw [Path.enter.eq_def, if_pos hstay, hsame]
  by_cases hup : part = ['.', '.']
  · rw [hup]
    exact descend_enter_up hstart hdone
  · rw [Path.enter.eq_def, if_neg hstay, if_neg hup, descend_cons]

theorem descend_foldl {absolute : Bool} {start : Place} {done parts : List (List Char)}
    (hstart : absolute = true → start = []) (hdone : Settled absolute done)
    (hparts : ∀ part ∈ parts, '/' ∉ part) :
    descend start (parts.foldl (Path.enter absolute) done) =
      (parts.map String.ofList).foldl enter (descend start done) := by
  induction parts generalizing done with
  | nil => rfl
  | cons part parts ih =>
      obtain ⟨hpart, hparts⟩ := List.forall_mem_cons.mp hparts
      rw [List.foldl_cons, ih (hdone.enter hpart) hparts, descend_enter hstart hdone]
      rfl

/-- A path leads where its stack of parts leads. -/
theorem locate_eq_descend (working : Place) (path : String) :
    locate working path = descend (origin working path) (resolved path.toList) := by
  have hstart : isAbsolute path.toList = true → origin working path = [] := by
    intro habsolute
    exact if_pos (of_decide_eq_true habsolute)
  have hparts : ∀ part ∈ Path.parts path.toList, '/' ∉ part := fun _ hpart =>
    Path.slash_not_mem_of_mem_parts hpart
  rw [resolved, descend_foldl hstart (Path.settled_nil _) hparts]
  rfl

theorem origin_eq (working : Place) (path : String) :
    origin working path = if isAbsolute path.toList then [] else working := by
  simp [origin, isAbsolute]

/-- A name that is joined to a directory leads into this directory, by one step. -/
theorem locate_join (working : Place) (directory : String) {name : String}
    (hname : IsName name.toList) :
    locate working (Path.join directory name) = locate working directory ++ [name] := by
  have hsettled := (Path.settled_resolved directory.toList).cons hname
  have hjoined := Path.toList_join directory hname
  rw [locate_eq_descend, locate_eq_descend, origin_eq, origin_eq, hjoined,
    hsettled.isAbsolute_written, hsettled.resolved_written, descend_cons, enter_of_isName hname,
    String.ofList_toList]

end WindowScript.Directory
