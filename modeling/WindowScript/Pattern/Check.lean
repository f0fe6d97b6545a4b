/-
# Well-formed patterns

A pattern is well-formed when its groups nest, every repetition has something to
repeat, counts are in order, names are given once, and every reference names a
group of the pattern. The first fault from the left is the one reported, and an
unknown reference is looked for only when nothing else is wrong.
-/

import WindowScript.Pattern.Piece

namespace WindowScript.Pattern

/-- What a repetition would apply to. -/
inductive Target
  | nothing
  | term
  | lookbehind
  deriving DecidableEq, Repr

/-- What has been read of a pattern: open groups, innermost first, names of
closed groups, names referred to, and the thing just before. -/
structure State where
  groups : List Group := []
  names : List Name := []
  references : List Name := []
  target : Target := .nothing
  deriving DecidableEq, Repr

/-- Close a group. Its name, if it has one, is taken from here on. -/
def State.close (state : State) (group : Group) (outer : List Group) : Except Fault State :=
  match group with
  | .named found =>
      if found ∈ state.names then .error .duplicateName
      else .ok { state with groups := outer, names := found :: state.names, target := .term }
  | .lookbehind => .ok { state with groups := outer, target := .lookbehind }
  | _ => .ok { state with groups := outer, target := .term }

/-- Whether the counts of a repetition are in order. -/
def countsInOrder (least : Nat) (most : Option Nat) : Bool :=
  match most with
  | some most => least ≤ most
  | none => true

/-- Take one piece into account. -/
def State.step (state : State) : Piece → Except Fault State
  | .boundary => .ok { state with target := .nothing }
  | .opening group => .ok { state with groups := group :: state.groups, target := .nothing }
  | .closing =>
      match state.groups with
      | [] => .error .unmatchedClosing
      | group :: outer => state.close group outer
  | .atom => .ok { state with target := .term }
  | .reference found =>
      .ok { state with references := found :: state.references, target := .term }
  | .repetition least most =>
      if state.target = .nothing then .error .nothingToRepeat
      else if !countsInOrder least most then .error .countsOutOfOrder
      else if state.target = .lookbehind then .error .invalidQuantifier
      else .ok { state with target := .nothing }
  | .fault fault => .error fault

/-- What is still wrong at the end of a pattern. -/
def State.finish (state : State) : Option Fault :=
  if state.groups ≠ [] then some .unterminatedGroup
  else if state.references.all (· ∈ state.names) then none
  else some .unknownReference

/-- The first fault of a list of pieces. -/
def firstFault? (state : State) : List Piece → Option Fault
  | [] => state.finish
  | piece :: rest =>
      match state.step piece with
      | .ok next => firstFault? next rest
      | .error fault => some fault

/-- The fault of a pattern, if it has one. -/
def fault? (term : String) : Option Fault :=
  let cs := term.toList
  firstFault? {} (pieces (opensNamed false cs) cs)

end WindowScript.Pattern
