/-
# Durations

A span of milliseconds is written in milliseconds below one second, and in
seconds with one decimal place from there on.
-/

import WindowScript.Number.Text

namespace WindowScript.Number

/-- The text of a span of milliseconds. -/
def duration (millis : Number) : String :=
  if millis.below 1000 then millis.text ++ "ms"
  else (millis.divNat 1000).onePlace ++ "s"

end WindowScript.Number
