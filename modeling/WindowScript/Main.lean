/-
# Command line

This front end reads the arguments, the environment and the clock, prints what
the program has to say and appends to the run log. It cannot start other
programs, so every helper counts as missing: help, version, dry runs and refusals
of command lines work in full, and any other run ends where it would load its
script.
-/

import WindowScript.Program

namespace WindowScript.CommandLine

/-- The variables that the program looks at. -/
def variableNames : List String := ["KDE_SESSION_VERSION", "KDOTOOL_LOG_DIR"]

/-- The environment, as far as the program looks at it. -/
def readEnvironment : IO Helper.Environment := do
  let found ← variableNames.mapM fun name => do
    return (← IO.getEnv name).map fun value => (name, value)
  return found.filterMap id

/-- The letters and digits that end the name of a temporary directory. -/
def alphabet : List Char :=
  "ABCDEFGHIJKLMNOPQRSTUVWXYZabcdefghijklmnopqrstuvwxyz0123456789".toList

/-- Six letters or digits at random. -/
def randomSuffix : IO String := do
  let found ← (List.range 6).mapM fun _ => do
    return alphabet[← IO.rand 0 (alphabet.length - 1)]?.getD 'A'
  return String.ofList found

/-- The time of day, read off a file that is made for this and removed again. -/
def readClock : IO Calendar.Clock :=
  IO.FS.withTempFile fun _ path => do
    let modified := (← path.metadata).modified
    return some (.ofInt (modified.sec * 1000 + (modified.nsec / 1000000).toNat))

/-- Print one effect. -/
def display (effect : Effect) : IO Unit :=
  match effect with
  | .output line => IO.println line
  | .problem line => IO.eprintln line
  | .diagnostic text => IO.eprintln text
  | _ => return ()

/-- Append to the run log. -/
def appendLog (place : Directory.Place) (text : String) : IO Unit := do
  IO.FS.createDirAll (Directory.text place.dropLast)
  let handle ← IO.FS.Handle.mk (Directory.text place) .append
  handle.putStr text

/-- Whether there is a file at a place, and no directory. -/
def isPlainFile (place : Directory.Place) : IO Bool := do
  let path := (← IO.currentDir) / Directory.text place
  return (← path.pathExists) && !(← path.isDir)

/-- Perform a call of the program and return its exit status. -/
def perform (args : List String) : IO UInt32 := do
  let environment ← readEnvironment
  let client : Compositor.Client := { timeout := Config.default.timeout }
  let world : World :=
    { clock := ← readClock, environment, missing := [client.program, Journal.program] }
  let working := (← IO.currentDir).toString
  let suffix ← randomSuffix
  let invocation : Program.Invocation := { args, working, temporary := "/tmp", suffix }
  -- Which directories the run log needs is found by a call that has nothing in its way.
  let files ← (Program.invoke invocation world).directories.filterM isPlainFile
  let obstacle? place := if files.contains place then some Directory.Obstacle.file else none
  let report := Program.invoke { invocation with obstacle? } world
  if let some (place, text) := report.logFile then
    appendLog place text
  report.effects.forM display
  return report.status.toUInt32

end WindowScript.CommandLine

def main (args : List String) : IO UInt32 := WindowScript.CommandLine.perform args
