/-
# Commands

A command line is a chain of commands. A search and the active window replace the
window stack; an action works on it.
-/

import WindowScript.Command.Action
import WindowScript.Command.Selector
import WindowScript.Pattern.Fault

namespace WindowScript

/-- A command of the chain. -/
inductive Command
  | search (term : String)
  | activeWindow
  | act (action : Action) (selector : Selector)
  deriving DecidableEq, Repr

namespace Command

/-- Whether a command replaces the window stack. -/
def isQuery : Command → Bool
  | .search _ => true
  | .activeWindow => true
  | .act _ _ => false

/-- Why a command line is refused. -/
inductive Error
  | unexpectedOption (token : String)
  | unknownCommand (token : String)
  | missingTerm (next : Option String)
  | invalidTerm (term : String) (fault : Pattern.Fault)
  | invalidSelector (token : String)
  | unknownOption (token : String)
  deriving DecidableEq, Repr

namespace Error

/-- What the user reads about an error. -/
def message : Error → String
  | .unexpectedOption token => "unexpected option: " ++ token
  | .unknownCommand token => "unknown command: " ++ token
  | .missingTerm _ => "missing search term"
  | .invalidTerm term fault =>
      "invalid search term: " ++ term ++ " (Invalid regular expression: /" ++ term ++ "/i: " ++
        fault.reason ++ ")"
  | .invalidSelector token => "invalid window selector: " ++ token
  | .unknownOption token => "unknown option: " ++ token

/-- The token an error is about, if there is one. -/
def token? : Error → Option String
  | .unexpectedOption token => some token
  | .unknownCommand token => some token
  | .missingTerm next => next
  | .invalidTerm term _ => some term
  | .invalidSelector token => some token
  | .unknownOption token => some token

end Error

end Command

end WindowScript
