/-
# The program

From the command line to the exit status. Whatever fails is reported on the error
output, after a fixed word, and makes the status 1; so does a script that reported
problems. The run log, if there is one, is chosen before anything else happens.
-/

import WindowScript.Directory
import WindowScript.Options
import WindowScript.Run.Basic
import WindowScript.RunLog.Session
import WindowScript.RunLog.Stored
import WindowScript.Usage

namespace WindowScript.Program

open WindowScript.Calendar (Clock)
open WindowScript.Directory (Place)

/-- A call of the program: its arguments, where it is called from, where and under
which last characters its script file will be made, and at which places of the machine
there can be no directories. -/
structure Invocation where
  args : List String
  working : String
  temporary : String
  suffix : String
  obstacle? : Place → Option Directory.Obstacle := fun _ => none

/-- The working directory as a place. -/
def Invocation.place (invocation : Invocation) : Place :=
  Directory.locate [] invocation.working

/-- What the program did: its effects, its exit status, the places of the
directories on the way to its run log, and the place of its log file with what it
appended to it, if it wrote one. -/
structure Report where
  effects : List Effect
  status : Nat
  directories : List Place
  logFile : Option (Place × String)

/-- The report of a failure, after the given effects. -/
def failed (effects : List Effect) (directories : List Place) (logPlace : Option Place)
    (failure : Failure) : Report where
  effects := effects ++ [.problem ("Error: " ++ failure.message)]
  status := 1
  directories := directories
  logFile := do return (← logPlace, ← RunLog.textAfter effects failure)

/-- What came of choosing the run log: the directories on the way to it, and its
place, if there is to be one. -/
structure Chosen where
  directories : List Place
  outcome : Except Failure (Option Place)

/-- Choose the run log of a run, if it has one, and make its directory. -/
def chooseLog (invocation : Invocation) (config : Config) (name : String) (clock : Clock) :
    Chosen :=
  if config.enableLog then
    let made := Directory.make invocation.place invocation.obstacle? config.logDir
    match made.outcome with
    | .error failure => ⟨made.places, .error failure⟩
    | .ok _ =>
        ⟨made.places, (RunLog.logPath config.logDir name clock).map fun path =>
          some (Directory.locate invocation.place path)⟩
  else ⟨[], .ok none⟩

/-- The job of a run: the first event, then the run. -/
def job (invocation : Invocation) (config : Config) (commands : List String) :
    Job Run.Outcome := do
  Job.event [("event", .string "run_start"), ("args", .array (invocation.args.map .string))]
  let file := ScriptFile.inDirectory invocation.temporary invocation.suffix
  Run.run config (Host.ofPrograms file config.timeout) commands

/-- Run commands with the given settings. -/
def runCommands (invocation : Invocation) (config : Config) (commands : List String)
    (world : World) : Report :=
  let chosen := chooseLog invocation config (commands.head?.getD "kdotool") world.clock
  match chosen.outcome with
  | .error failure => failed [] chosen.directories none failure
  | .ok place =>
      let done := job invocation config commands world
      match done.outcome with
      | .error failure => failed done.effects chosen.directories place failure
      | .ok outcome =>
          { effects := done.effects
            status := if outcome.errors = [] then 0 else 1
            directories := chosen.directories
            logFile := place.map fun place => (place, RunLog.text done.effects) }

/-- The whole program. -/
def invoke (invocation : Invocation) (world : World) : Report :=
  match Options.parse world.environment invocation.args with
  | .error error => failed [] [] none (.command error)
  | .ok .help => ⟨[.output Usage.text], 0, [], none⟩
  | .ok .version => ⟨[.output version], 0, [], none⟩
  | .ok (.run overrides commands) =>
      runCommands invocation overrides.config commands world

/-- What the program wrote to its output. -/
def Report.stdout (report : Report) : String :=
  String.join (report.effects.map fun effect =>
    match effect with
    | .output line => line ++ "\n"
    | _ => "")

/-- What the program wrote to its error output. -/
def Report.stderr (report : Report) : String :=
  String.join (report.effects.map fun effect =>
    match effect with
    | .problem line => line ++ "\n"
    | .diagnostic text => text ++ "\n"
    | _ => "")

/-- The launches of helper programs, in order. -/
def Report.launches (report : Report) : List Helper.Launch :=
  report.effects.filterMap fun effect =>
    match effect with
    | .launch launch _ => some launch
    | _ => none

/-- The script that the first helper program found in its file. -/
def scriptAtLaunch (written : Option String) : List Effect → Option String
  | [] => none
  | .write text :: rest => scriptAtLaunch (some text) rest
  | .launch _ _ :: _ => written
  | _ :: rest => scriptAtLaunch written rest

/-- The markers of the script directories that were made and not removed. -/
def keptMarkers (made : List String) : List Effect → List String
  | [] => made
  | .create marker :: rest => keptMarkers (made ++ [marker]) rest
  | .remove :: rest => keptMarkers made.dropLast rest
  | _ :: rest => keptMarkers made rest

/-- The names that the program leaves in a directory that was empty, in order. The
markers are those of script directories in it. -/
def namesLeft (directory : Place) (markers : List String) (places : List Place) :
    List String :=
  let below := places.filterMap fun place => (Directory.below? directory place).bind List.head?
  ((markers ++ below).eraseDups).mergeSort

/-- The names that the program leaves in its temporary directory. -/
def Report.leftover (report : Report) (invocation : Invocation) : List String :=
  namesLeft (Directory.locate invocation.place invocation.temporary)
    (keptMarkers [] report.effects) (report.directories ++ report.logFile.toList.map Prod.fst)

/-- The log file with its path from the working directory, if it is below it. -/
def Report.logBelow? (report : Report) (invocation : Invocation) : Option (String × String) :=
  match report.logFile with
  | none => none
  | some (place, text) =>
      (Directory.below? invocation.place place).map fun way =>
        (String.intercalate "/" way, text)

end WindowScript.Program
