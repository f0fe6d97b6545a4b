/-
# Global options

Options are read before the first command only. The first token that is not an
option starts the commands, and from there on nothing is looked at.
-/

import WindowScript.Command.Reader
import WindowScript.Helper.Launch
import WindowScript.Run.Config

namespace WindowScript.Options

/-- What the user asks for. -/
inductive Request
  | help
  | version
  | run (overrides : Overrides) (commands : List String)
  deriving DecidableEq, Repr

/-- The options there are. -/
inductive Switch
  | help
  | version
  | debug
  | dryRun
  | log
  deriving DecidableEq, Repr

/-- The switch that an option is a spelling of. -/
def switch? (token : String) : Option Switch :=
  if token = "-h" ∨ token = "--help" then some .help
  else if token = "-V" ∨ token = "--version" then some .version
  else if token = "-d" ∨ token = "--debug" then some .debug
  else if token = "-n" ∨ token = "--dry-run" then some .dryRun
  else if token = "--log" then some .log
  else none

/-- What the environment says. An empty log directory is none. -/
def ofEnvironment (environment : Helper.Environment) : Overrides where
  kde5 := environment.get? "KDE_SESSION_VERSION" = some "5"
  logDir := (environment.get? "KDOTOOL_LOG_DIR").filter (· ≠ "")

/-- Read options up to the first command. -/
def read (overrides : Overrides) : List String → Except Command.Error Request
  | [] => .ok (.run overrides [])
  | token :: rest =>
      if Command.isOption token then
        match switch? token with
        | none => .error (.unknownOption token)
        | some .help => .ok .help
        | some .version => .ok .version
        | some .debug => read { overrides with debug := true } rest
        | some .dryRun => read { overrides with dryRun := true } rest
        | some .log => read { overrides with enableLog := true } rest
      else .ok (.run overrides (token :: rest))

/-- Read a command line. An empty one asks for help. -/
def parse (environment : Helper.Environment) (args : List String) :
    Except Command.Error Request :=
  if args = [] then .ok .help else read (ofEnvironment environment) args

end WindowScript.Options
