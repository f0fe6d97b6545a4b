/-
# Reading commands

Commands are read from the tokens of a command line, one at a time. Each reading
says what is left, also when it failed, so that a caller may go on after an
error. Which search terms are acceptable is a parameter: the grammar of commands
does not depend on it.
-/

import WindowScript.Command.Basic
import WindowScript.Pattern.Check

namespace WindowScript.Command

/-- Options start with a dash. A single dash is an option too. -/
def isOption (token : String) : Bool := token.toList.head? = some '-'

/-- Words that start a command. -/
def isVerb (token : String) : Bool :=
  token = "search" || token = "getactivewindow" || (Action.ofVerb? token).isSome

/-- Whether the next token exists and is an option. -/
def nextIsOption (tokens : List String) : Bool := tokens.head?.any isOption

/-- A judgement on search terms: the fault of a term, or none. -/
abbrev TermCheck := String → Option Pattern.Fault

/-- The outcome of reading one command, and the tokens left after it. -/
structure Reading where
  outcome : Except Error Command
  rest : List String

/-- Read the term of a search. An option in its place is not used up. -/
def readSearch (check : TermCheck) : List String → Reading
  | [] => ⟨.error (.missingTerm none), []⟩
  | token :: rest =>
      if isOption token then ⟨.error (.missingTerm (some token)), token :: rest⟩
      else match check token with
        | none => ⟨.ok (.search token), rest⟩
        | some fault => ⟨.error (.invalidTerm token fault), rest⟩

/-- Read the selector of an action, after any options. The next verb, or the end,
leaves the action with the default selector. -/
def readAction (action : Action) (tokens : List String) : Reading :=
  match tokens.dropWhile isOption with
  | [] => ⟨.ok (.act action .first), []⟩
  | token :: rest =>
      if isVerb token then ⟨.ok (.act action .first), token :: rest⟩
      else match Selector.ofToken? token with
        | some selector => ⟨.ok (.act action selector), rest⟩
        | none => ⟨.error (.invalidSelector token), rest⟩

/-- Read the command that starts with `verb`. -/
def read (check : TermCheck) (verb : String) (tokens : List String) : Reading :=
  if isOption verb then ⟨.error (.unexpectedOption verb), tokens⟩
  else if verb = "search" then readSearch check tokens
  else if verb = "getactivewindow" then ⟨.ok .activeWindow, tokens⟩
  else match Action.ofVerb? verb with
    | some action => readAction action tokens
    | none => ⟨.error (.unknownCommand verb), tokens⟩

theorem length_readSearch_le (check : TermCheck) (tokens : List String) :
    (readSearch check tokens).rest.length ≤ tokens.length := by
  unfold readSearch
  split
  · exact Nat.le_refl _
  · split
    · exact Nat.le_refl _
    · split <;> simp

theorem length_readAction_le (action : Action) (tokens : List String) :
    (readAction action tokens).rest.length ≤ tokens.length := by
  have hdrop := (List.dropWhile_suffix (l := tokens) isOption).length_le
  unfold readAction
  split
  · simp
  next token rest htokens =>
      rw [htokens] at hdrop
      simp only [List.length_cons] at hdrop
      split
      · simpa using hdrop
      · split <;> exact Nat.le_of_succ_le hdrop

/-- A reading uses up at least the verb it starts with. -/
theorem length_read_le (check : TermCheck) (verb : String) (tokens : List String) :
    (read check verb tokens).rest.length ≤ tokens.length := by
  unfold read
  split
  · exact Nat.le_refl _
  · split
    · exact length_readSearch_le check tokens
    · split
      · exact Nat.le_refl _
      · split
        · exact length_readAction_le _ tokens
        · exact Nat.le_refl _

/-- Read a whole command line, stopping at the first error. -/
def parseWith (check : TermCheck) : List String → Except Error (List Command)
  | [] => .ok []
  | verb :: tokens =>
      match (read check verb tokens).outcome with
      | .error error => .error error
      | .ok command => (parseWith check (read check verb tokens).rest).map (command :: ·)
termination_by tokens => tokens.length
decreasing_by exact Nat.lt_succ_of_le (length_read_le check verb tokens)

/-- Read a whole command line of search patterns. -/
def parse (tokens : List String) : Except Error (List Command) :=
  parseWith Pattern.fault? tokens

/-- One attempt at reading a command, for callers that go on after errors. -/
inductive Attempt
  | done
  | tried (reading : Reading)

/-- The tokens that an attempt left. -/
def Attempt.rest : Attempt → List String
  | .done => []
  | .tried reading => reading.rest

/-- Read on and on, after errors too, until nothing is left. The last attempt
finds the end, unless the one before it failed there. -/
def attempts (check : TermCheck) : List String → List Attempt
  | [] => [.done]
  | verb :: tokens =>
      let reading := read check verb tokens
      match reading.outcome, reading.rest with
      | .error _, [] => [.tried reading]
      | _, _ => .tried reading :: attempts check (read check verb tokens).rest
termination_by tokens => tokens.length
decreasing_by exact Nat.lt_succ_of_le (length_read_le check verb tokens)

end WindowScript.Command
