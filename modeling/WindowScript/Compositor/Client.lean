/-
# The compositor's scripting interface

Scripts are loaded, started and stopped by calls on the message bus, each made
with one launch of a bus client. Every call is logged with its command line and
with what the client wrote.
-/

import WindowScript.Compositor.ScriptId
import WindowScript.Run.Job

namespace WindowScript.Compositor

/-- The name of the compositor on the bus. -/
def service : String := "org.kde.KWin"

/-- The interface that loads scripts. -/
def scriptingInterface : String := "org.kde.kwin.Scripting"

/-- The interface that starts and stops a loaded script. -/
def scriptInterface : String := "org.kde.kwin.Script"

/-- The method that loads a script. -/
def loadMethod : String := scriptingInterface ++ ".loadScript"

/-- Milliseconds of a second. -/
def millisPerSecond : Nat := 1000

/-- A bus client and how long each call may take, in milliseconds. -/
structure Client where
  program : String := "gdbus"
  timeout : Number

/-- The timeout as the client takes it: whole seconds, rounded up, and at least
one. -/
def Client.seconds (client : Client) : Number :=
  let whole := (client.timeout.divNat millisPerSecond).ceil
  if whole.below 1 then .integer 1 else whole

/-- The launch of the bus client for a call. -/
def Client.launch (client : Client) (objectPath method : String) (args : List String) :
    Helper.Launch where
  file := client.program
  args := ["call", "--session", "--dest", service, "--object-path", objectPath,
    "--method", method, "--timeout", client.seconds.text] ++ args

/-- Make a call and return what the client printed. -/
def Client.call (client : Client) (objectPath method : String) (args : List String) :
    Job String := do
  let launch := client.launch objectPath method args
  Job.emit (.log ("$ " ++ launch.text))
  let result ← Job.start launch
  Job.emit (.log (Text.trimEnd (result.stdout ++ result.stderr)))
  if result.exitCode = 0 then return result.stdout
  else Job.fail (.transport (.callFailed method launch.text result))

/-- The id in a reply to a load request. A negative id means that the compositor
refused the script. -/
def loadedId (path reply : String) : Except Failure Number :=
  match scriptId? reply with
  | none => .error (.transport (.unexpectedReply loadMethod reply))
  | some id =>
      if id.below 0 then .error (.transport (.refused loadMethod path reply)) else .ok id

/-- Load the script at a path. -/
def Client.load (client : Client) (path : String) : Job Number := do
  let reply ← client.call scriptingPath loadMethod [path]
  let id ← Job.ofExcept (loadedId path reply)
  Job.event [("event", .string "script_loaded"), ("scriptId", .number id)]
  return id

/-- Start a loaded script. -/
def Client.start (client : Client) (id : Number) : Job Unit := do
  let _ ← client.call (scriptPath id) (scriptInterface ++ ".run") []
  return ()

/-- Stop a loaded script. -/
def Client.stop (client : Client) (id : Number) : Job Unit := do
  let _ ← client.call (scriptPath id) (scriptInterface ++ ".stop") []
  return ()

end WindowScript.Compositor
