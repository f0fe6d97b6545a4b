/-
# Configuration of a run

The settings of a run. The command line and the environment override the
defaults, each only what it names.
-/

import WindowScript.Number.Basic

namespace WindowScript

/-- The settings of a run. The timeout of a bus call is in milliseconds. -/
structure Config where
  debug : Bool
  dryRun : Bool
  kde5 : Bool
  enableLog : Bool
  logDir : String
  timeout : Number
  deriving DecidableEq, Repr

/-- The settings that hold where nothing is said. -/
def Config.default : Config where
  debug := false
  dryRun := false
  kde5 := false
  enableLog := false
  logDir := "logs"
  timeout := .integer 5000

/-- What the command line and the environment say. A switch that is off was not
given. -/
structure Overrides where
  kde5 : Bool
  logDir : Option String
  debug : Bool := false
  dryRun : Bool := false
  enableLog : Bool := false
  deriving DecidableEq, Repr

/-- The settings of a run with the given overrides. -/
def Overrides.config (overrides : Overrides) : Config where
  debug := overrides.debug
  dryRun := overrides.dryRun
  kde5 := overrides.kde5
  enableLog := overrides.enableLog
  logDir := overrides.logDir.getD Config.default.logDir
  timeout := Config.default.timeout

end WindowScript
