/-
# A run

A run compiles its commands, writes the script to its file, has the host load,
start and stop it, reads the journal back and reports the output. The script file
is removed at the end, whatever happens in between. A dry run stops after
compiling and reports the script itself.
-/

import WindowScript.Journal.Output
import WindowScript.Number.Duration
import WindowScript.Run.Config
import WindowScript.Run.Host
import WindowScript.Script.Compile
import WindowScript.Terminal.Diagnostic

namespace WindowScript.Run

open WindowScript.Calendar (Clock Instant noField)

/-- What a run brought back: the output lines, the problems, and whether the
script's last line was seen. -/
structure Outcome where
  results : List String
  errors : List String
  finished : Bool
  deriving DecidableEq, Repr

/-- Tell what is going on: in the run log, and on the terminal when debugging. -/
def announce (debug : Bool) (message : String) : Job Unit := do
  Job.emit (.log message)
  if debug then
    let instant ← Job.now
    Job.emit (.diagnostic (Terminal.diagnostic instant .tool message))

/-- Relay what the script reported about itself. -/
def relay (debug : Bool) (lines : List String) : Job Unit := do
  if debug then
    let instant ← Job.now
    Job.emitAll (lines.map fun line => .diagnostic (Terminal.diagnostic instant .compositor line))

/-- How long it took since an instant. Without an instant there is no duration. -/
def elapsed (since : Option Instant) (clock : Clock) : String :=
  match clock.since? since with
  | some span => span.duration
  | none => noField ++ "s"

/-- Report the output of a script. -/
def report (config : Config) (marker : String) (since : Option Instant) (journal : String) :
    Job Outcome := do
  let output := Journal.demultiplex journal marker
  announce config.debug "===== Output ====="
  relay config.debug output.debug
  Job.emitAll (output.results.map .output)
  Job.emitAll (output.errors.map .problem)
  if !output.finished then
    announce config.debug
      ("No FINISH line for " ++ marker ++ " in the journal yet; output may be incomplete")
  let clock ← Job.clock
  Job.event [("event", .string "finished"), ("marker", .string marker),
    ("results", .ofNat output.results.length), ("errors", .ofNat output.errors.length),
    ("finished", .bool output.finished), ("duration", .string (elapsed since clock))]
  return ⟨output.results, output.errors, output.finished⟩

/-- Have a compiled script run by the host, and report what it printed. -/
def execute (config : Config) (host : Host) (file : ScriptFile) (text : String) :
    Job Outcome := do
  host.write text
  let since ← Job.now
  announce config.debug "===== Load script into KWin ====="
  let id ← host.load file.path
  announce config.debug ("Script ID: " ++ id.text)
  announce config.debug "===== Run script ====="
  host.start id
  host.stop id
  let journal ← host.journal since
  report config file.marker since journal

/-- Compile the commands, then run the script or, on a dry run, print it. -/
def compileAndExecute (config : Config) (host : Host) (file : ScriptFile)
    (tokens : List String) : Job Outcome := do
  let target : Script.Target := ⟨file.marker, config.debug, config.kde5⟩
  let compiled ← Job.ofExcept ((Script.compile target tokens).mapError .command)
  Job.event [("event", .string "compiled"), ("marker", .string file.marker),
    ("steps", .array (compiled.steps.map fun step => .string step.word))]
  announce config.debug ("Script:\n" ++ compiled.text)
  if config.dryRun then
    Job.emit (.output compiled.text)
    return ⟨[], [], false⟩
  else execute config host file compiled.text

/-- A whole run of the given commands. -/
def run (config : Config) (host : Host) (tokens : List String) : Job Outcome := do
  announce config.debug "===== Generate KWin script ====="
  let file ← host.create
  (compileAndExecute config host file tokens).ensuring .remove

end WindowScript.Run
