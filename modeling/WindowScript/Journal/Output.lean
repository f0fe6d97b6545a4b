/-
# The output of one run

The journal is shared: the compositor, other scripts and other runs write to it.
What one run printed is recovered by its marker. Every line of a script stands
behind a fixed host prefix in the journal.
-/

import WindowScript.Journal.Line
import WindowScript.Terminal.Escape
import WindowScript.Text.Lines

namespace WindowScript.Journal

/-- What the compositor writes before every line of a script. -/
def hostPrefix : String := "js: "

/-- What was recovered of one run, payloads in the order of printing. -/
structure Output where
  started : Bool
  finished : Bool
  results : List String
  errors : List String
  debug : List String
  deriving DecidableEq, Repr

/-- The payloads of one channel, in order. -/
def payloads (channel : Channel) (lines : List Line) : List String :=
  (lines.filter fun line => line.channel = channel).map Line.payload

/-- Sort lines by channel. -/
def Output.ofLines (lines : List Line) : Output where
  started := lines.any fun line => line.channel = .start
  finished := lines.any fun line => line.channel = .finish
  results := payloads .result lines
  errors := payloads .error lines
  debug := payloads .debug lines

/-- A journal line without the host prefix, if it has one. -/
def withoutHost? (host line : String) : Option String :=
  (Text.after? host.toList line.toList).map String.ofList

/-- Read a journal line as a line of the given marker. -/
def readLine? (host marker line : String) : Option Line :=
  match withoutHost? host line with
  | some text => decode? text marker
  | none => none

/-- The lines of one marker in a journal text, in order. -/
def linesOf (host marker journal : String) : List Line :=
  (Text.lines (Terminal.strip journal.toList)).filterMap fun line =>
    readLine? host marker (String.ofList line)

/-- Recover the output of one run from a journal text in which scripts print
behind `host`. -/
def demultiplexFrom (host journal marker : String) : Output :=
  Output.ofLines (linesOf host marker journal)

/-- Recover the output of one run from the compositor's journal. -/
def demultiplex (journal marker : String) : Output :=
  demultiplexFrom hostPrefix journal marker

end WindowScript.Journal
