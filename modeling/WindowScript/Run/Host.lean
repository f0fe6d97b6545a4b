/-
# Hosts

A run needs somebody to make and write its script file and to load, start, stop
and read back its script. The host at work does this through the helper programs.
A rehearsed host does nothing but record what it is asked, let the given time pass,
and succeed or fail as told.
-/

import WindowScript.Compositor.Client
import WindowScript.Journal.Reader
import WindowScript.ScriptFile

namespace WindowScript

open WindowScript.Calendar (Instant)

/-- Whoever loads and runs scripts. -/
structure Host where
  create : Job ScriptFile
  write : String → Job Unit
  load : String → Job Number
  start : Number → Job Unit
  stop : Number → Job Unit
  journal : Option Instant → Job String

namespace Host

/-- The host that works through the helper programs, with the script file it is
given. -/
def ofPrograms (file : ScriptFile) (timeout : Number) : Host :=
  let client : Compositor.Client := { timeout }
  { create := do
      Job.emit (.create file.marker)
      return file
    write text := Job.emit (.write text)
    load := client.load
    start := client.start
    stop := client.stop
    journal := Journal.read Journal.program }

/-- What a rehearsed host does when asked: how long it takes, and how it ends. -/
structure Response (α : Type) where
  millis : Number
  outcome : Except Failure α

/-- Record a request and respond to it. -/
def Response.job {α : Type} (response : Response α) (request : Effect) : Job α := do
  Job.emit request
  Job.wait response.millis
  Job.ofExcept response.outcome

/-- The responses of a rehearsed host. -/
structure Rehearsal where
  file : ScriptFile
  write : Response Unit := ⟨.integer 0, .ok ()⟩
  load : Response Number
  start : Response Unit
  stop : Response Unit
  journal : Response String

/-- The host of a rehearsal. -/
def rehearsed (rehearsal : Rehearsal) : Host where
  create := return rehearsal.file
  write text := rehearsal.write.job (.write text)
  load path := rehearsal.load.job (.call (.load path))
  start id := rehearsal.start.job (.call (.start id))
  stop id := rehearsal.stop.job (.call (.stop id))
  journal since := rehearsal.journal.job (.call (.journal since))

end Host

end WindowScript
