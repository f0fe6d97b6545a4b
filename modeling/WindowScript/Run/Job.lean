/-
# Jobs

A run is a job: it acts on the world, one effect after the other, and ends with a
value or a failure. The world is what a job can ask: the clock, the environment,
which programs and directories there are, and what the programs will reply. What
a job does is the list of its effects, in order; a failure keeps the effects that
came before it.
-/

import WindowScript.Calendar.Instant
import WindowScript.Helper.Launch
import WindowScript.Json.Value
import WindowScript.Run.Failure

namespace WindowScript

open WindowScript.Calendar (Clock Instant)

/-- A call to the compositor or to its journal. -/
inductive Call
  | load (path : String)
  | start (id : Number)
  | stop (id : Number)
  | journal (since : Option Instant)
  deriving DecidableEq, Repr

/-- One thing that a job does. -/
inductive Effect
  | log (text : String)
  | event (time : Option Instant) (fields : List (String × Json))
  | create (marker : String)
  | write (text : String)
  | remove
  | call (call : Call)
  | launch (launch : Helper.Launch) (environment : Helper.Environment)
  | output (line : String)
  | problem (line : String)
  | diagnostic (text : String)
  deriving Repr

/-- What a job can ask of the world. Each program that is started plays the next
reply; one without a reply writes nothing and exits with code 0. -/
structure World where
  clock : Clock
  environment : Helper.Environment := []
  missing : List String := []
  noDirectory : List String := []
  replies : List Helper.Reply := []

/-- A job that was performed. -/
structure Performed (α : Type) where
  effects : List Effect
  world : World
  outcome : Except Failure α

/-- A job with a value of the given type. -/
def Job (α : Type) : Type := World → Performed α

namespace Job

/-- Do nothing. -/
def pure {α : Type} (a : α) : Job α := fun world => ⟨[], world, .ok a⟩

/-- Give up. -/
def fail {α : Type} (failure : Failure) : Job α := fun world => ⟨[], world, .error failure⟩

/-- One job after the other, the second only if the first succeeds. -/
def bind {α β : Type} (job : Job α) (next : α → Job β) : Job β := fun world =>
  let first := job world
  match first.outcome with
  | .error failure => ⟨first.effects, first.world, .error failure⟩
  | .ok a =>
      let second := next a first.world
      ⟨first.effects ++ second.effects, second.world, second.outcome⟩

instance : Monad Job where
  pure := Job.pure
  bind := Job.bind

/-- Have one effect. -/
def emit (effect : Effect) : Job Unit := fun world => ⟨[effect], world, .ok ()⟩

/-- Have several effects. -/
def emitAll (effects : List Effect) : Job Unit := fun world => ⟨effects, world, .ok ()⟩

/-- Look at the clock. -/
def clock : Job Clock := fun world => ⟨[], world, .ok world.clock⟩

/-- The instant that the clock shows. -/
def now : Job (Option Instant) := fun world => ⟨[], world, .ok world.clock.instant?⟩

/-- Let time pass. -/
def wait (millis : Number) : Job Unit := fun world =>
  ⟨[], { world with clock := world.clock.advance millis }, .ok ()⟩

/-- Do as was decided elsewhere. -/
def ofExcept {α : Type} : Except Failure α → Job α
  | .ok a => Job.pure a
  | .error failure => Job.fail failure

/-- Have one more effect at the end, whatever the outcome. -/
def ensuring {α : Type} (effect : Effect) (job : Job α) : Job α := fun world =>
  let done := job world
  ⟨done.effects ++ [effect], done.world, done.outcome⟩

/-- Write an event to the run log. -/
def event (fields : List (String × Json)) : Job Unit := fun world =>
  ⟨[.event world.clock.instant? fields], world, .ok ()⟩

/-- Start a program and collect what it writes. A program or a directory that
does not exist is the same failure, and uses up no reply. -/
def start (launch : Helper.Launch) : Job Helper.Result := fun world =>
  if launch.file ∈ world.missing ∨ launch.directory.any (· ∈ world.noDirectory) then
    ⟨[], world, .error (.missingProgram launch.file)⟩
  else
    ⟨[.launch launch (world.environment.change launch.changes)],
      { world with replies := world.replies.tail },
      .ok (world.replies.headD {}).result⟩

end Job

end WindowScript
