/-
# What reaches the log file

Entries of the run log are stored in the background. While a helper program is
running, everything written so far reaches the file; once it has ended, the next
entry is stored at once and later ones wait. A run that ends normally waits for
all of them. A run that fails ends the program at once, and what was still waiting
is lost. The file itself is made in the background too, so a command line that is
refused leaves none.
-/

import WindowScript.RunLog.Entry

namespace WindowScript.RunLog

/-- The launch of a helper program. -/
def isLaunch : Effect → Bool
  | .launch _ _ => true
  | _ => false

/-- An entry of the run log. -/
def isEntry : Effect → Bool
  | .log _ => true
  | .event _ _ => true
  | _ => false

/-- The effects whose entries are stored when a run fails after them: everything
up to the last launch, and the first entry after it. -/
def stored : List Effect → List Effect
  | [] => []
  | effect :: rest =>
      if rest.any isLaunch then effect :: stored rest
      else if isLaunch effect then effect :: (rest.find? isEntry).toList
      else []

/-- The text that effects leave in the log file. -/
def text (effects : List Effect) : String := (entries effects).toOption.getD ""

/-- The text that a failed run leaves in its log file, if it leaves a file. -/
def textAfter (effects : List Effect) : Failure → Option String
  | .command _ => none
  | _ => some (text (stored effects))

end WindowScript.RunLog
