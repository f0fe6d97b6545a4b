/-
# Entries of the run log

The run log holds plain lines, without terminal escape sequences, and events. An
event is one line with one JSON object. It carries its type and its time, unless
it gives these fields itself.
-/

import WindowScript.Json.Printer
import WindowScript.Run.Job
import WindowScript.Terminal.Escape

namespace WindowScript.RunLog

open WindowScript.Calendar (Instant)

/-- The object of an event. -/
def eventObject (instant : Instant) (fields : List (String × Json)) : Json :=
  .object (("type", .string "kdotool") :: ("timestamp", .string instant.iso) :: fields)

/-- The line of an event. -/
def eventLine (instant : Instant) (fields : List (String × Json)) : String :=
  (eventObject instant fields).text ++ "\n"

/-- The lines of a text. -/
def textLine (text : String) : String := Terminal.stripText text ++ "\n"

/-- What an effect adds to the run log. An event needs an instant. -/
def entry : Effect → Except Failure String
  | .log text => .ok (textLine text)
  | .event (some instant) fields => .ok (eventLine instant fields)
  | .event none _ => .error .noInstant
  | _ => .ok ""

/-- What effects add to the run log, one after the other. -/
def entries : List Effect → Except Failure String
  | [] => .ok ""
  | effect :: rest =>
      match entry effect with
      | .error failure => .error failure
      | .ok text => (entries rest).map (text ++ ·)

/-- What effects add to the run log before the first of them that cannot be added. -/
def accepted : List Effect → String
  | [] => ""
  | effect :: rest =>
      match entry effect with
      | .error _ => ""
      | .ok text => text ++ accepted rest

/-- Why the first effect that cannot be added to the run log cannot. -/
def entryFailure? : List Effect → Option Failure
  | [] => none
  | effect :: rest =>
      match entry effect with
      | .error failure => some failure
      | .ok _ => entryFailure? rest

end WindowScript.RunLog
