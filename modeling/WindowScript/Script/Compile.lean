/-
# Compiling a command line

Reading, lowering and rendering run in one pass from left to right: each command
is turned into its step and its text as soon as it is read. The text exists only
when every token was accepted.
-/

import WindowScript.Command.Reader
import WindowScript.Script.Render

namespace WindowScript.Script

open WindowScript.Command (TermCheck)

/-- A compiled script: its steps and its text. -/
structure Compiled where
  steps : List Step
  text : String
  deriving DecidableEq, Repr

/-- Put a step and its text in front. -/
def Compiled.cons (target : Target) (step : Step) (tail : Compiled) : Compiled where
  steps := step :: tail.steps
  text := joinPieces (stepPieces target step) ++ tail.text

/-- What ends a script: a report of the windows found if the last command was a
query, and the closing text. -/
def ending (target : Target) (lastIsQuery : Bool) : Compiled :=
  let closing : Compiled := ⟨[], joinPieces (epilogue target)⟩
  if lastIsQuery then closing.cons target .report else closing

/-- Compile the commands that are left after one that was a query or not. -/
def compileRest (check : TermCheck) (target : Target) (lastIsQuery : Bool) :
    List String → Except Command.Error Compiled
  | [] => .ok (ending target lastIsQuery)
  | verb :: tokens =>
      match (Command.read check verb tokens).outcome with
      | .error error => .error error
      | .ok command =>
          (compileRest check target command.isQuery (Command.read check verb tokens).rest).map
            (Compiled.cons target (Step.ofCommand command))
termination_by tokens => tokens.length
decreasing_by exact Nat.lt_succ_of_le (Command.length_read_le check verb tokens)

/-- Compile a command line with the given judgement on search terms. -/
def compileWith (check : TermCheck) (target : Target) (tokens : List String) :
    Except Command.Error Compiled :=
  (compileRest check target false tokens).map fun compiled =>
    { compiled with text := joinPieces (prologue target) ++ compiled.text }

/-- Compile a command line of search patterns. -/
def compile (target : Target) (tokens : List String) : Except Command.Error Compiled :=
  compileWith Pattern.fault? target tokens

end WindowScript.Script
