/-
# Diagnostics

With debugging on, the tool tells on the terminal what it does and relays what
the script reports. Every such line carries the time of day and a coloured name.
-/

import WindowScript.Calendar.Instant
import WindowScript.Terminal.Style

namespace WindowScript.Terminal

open WindowScript.Calendar (Instant timestamp)

/-- Who a diagnostic comes from. -/
inductive Source
  | tool
  | compositor
  deriving DecidableEq, Repr

/-- The name of a source, in its colour. -/
def Source.label : Source → String
  | .tool => Style.magenta.apply "[KDOTOOL]"
  | .compositor => Style.cyan.apply "[KWIN]"

/-- The time of day before a diagnostic. -/
def timeLabel (instant : Option Instant) : String := Style.dim.apply (timestamp instant) ++ " "

/-- A diagnostic line. -/
def diagnostic (instant : Option Instant) (source : Source) (message : String) : String :=
  timeLabel instant ++ source.label ++ " " ++ message

end WindowScript.Terminal
