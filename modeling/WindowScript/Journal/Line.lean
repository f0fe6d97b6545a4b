/-
# Tagged lines

Every line that a script prints is tagged with the marker of its run and with a
channel: marker, space, channel, and after a further space the payload. The
marker may contain spaces, and so may the payload.
-/

import WindowScript.Text.Head

namespace WindowScript.Journal

/-- What a line of a script is about. -/
inductive Channel
  | start
  | debug
  | error
  | result
  | finish
  deriving DecidableEq, Repr

namespace Channel

/-- The word for a channel. -/
def tag : Channel → String
  | .start => "START"
  | .debug => "DEBUG"
  | .error => "ERROR"
  | .result => "RESULT"
  | .finish => "FINISH"

/-- Every channel. -/
def all : List Channel := [.start, .debug, .error, .result, .finish]

/-- The channel that a word names. -/
def ofTag? (word : String) : Option Channel := all.find? fun channel => channel.tag = word

@[simp]
theorem ofTag?_tag (channel : Channel) : ofTag? channel.tag = some channel := by
  cases channel <;> decide

end Channel

/-- A line of a script, without its marker. -/
structure Line where
  channel : Channel
  payload : String
  deriving DecidableEq, Repr

/-- The start of every line of a channel, which is the whole line where there is
no payload. -/
def head (marker : String) (channel : Channel) : String := marker ++ " " ++ channel.tag

/-- A tagged line. -/
def encode (marker : String) (channel : Channel) (payload : Option String) : String :=
  match payload with
  | none => head marker channel
  | some payload => head marker channel ++ " " ++ payload

/-- Read a line of the given marker. The channel ends at the first space after
the marker, and no payload is an empty one. -/
def decode? (text marker : String) : Option Line :=
  match Text.after? (marker ++ " ").toList text.toList with
  | none => none
  | some rest =>
      let tag := rest.takeWhile (· ≠ ' ')
      match Channel.ofTag? (String.ofList tag) with
      | none => none
      | some channel => some ⟨channel, String.ofList (rest.drop (tag.length + 1))⟩

end WindowScript.Journal
