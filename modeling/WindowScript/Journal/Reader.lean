/-
# Reading the journal

What the compositor logged since an instant is asked of the system journal, one
unit for each display protocol. The journal reader is told to use neither colours
nor a pager.
-/

import WindowScript.Run.Job

namespace WindowScript.Journal

open WindowScript.Calendar (Instant journalTime)

/-- The units under which the compositor logs. -/
def units : List String := ["plasma-kwin_wayland.service", "plasma-kwin_x11.service"]

/-- The arguments that select the compositor's log since an instant. -/
def query (since : Option Instant) : List String :=
  ["--since=" ++ journalTime since, "--user"] ++ units.map ("--unit=" ++ ·) ++
    ["--output=cat", "--no-pager"]

/-- The program that reads the journal. -/
def program : String := "journalctl"

/-- The launch of a journal reader. -/
def launch (file : String) (since : Option Instant) : Helper.Launch where
  file := file
  args := query since
  changes := [("SYSTEMD_COLORS", some "0"), ("SYSTEMD_PAGER", some "")]

/-- Read the journal since an instant. -/
def read (file : String) (since : Option Instant) : Job String := do
  let request := launch file since
  Job.emit (.log ("$ " ++ request.text))
  let result ← Job.start request
  if result.exitCode = 0 then
    Job.emit (.log ("KWin log from the systemd journal:\n" ++ Text.trimEnd result.stdout))
    return result.stdout
  else Job.fail (.transport (.journalFailed request.text result))

end WindowScript.Journal
