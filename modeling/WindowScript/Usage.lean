/-
# Usage

The help text and the version.
-/

import WindowScript.Command.Action

namespace WindowScript

/-- The version of the tool. -/
def version : String := "0.2.0"

namespace Usage

/-- The width of the column of commands: the longest verb with its operand, and a
gap of two. -/
def width : Nat := (Action.all.map fun action => action.verb.length).foldl max 0 + 11

/-- A command and its description. -/
def row (command description : String) : String :=
  "  " ++ String.ofList (command.toList.rightpad width ' ') ++ description

/-- The rows of the actions. -/
def actionRows : List String :=
  Action.all.map fun action => row (action.verb ++ " <window>") action.entry.description

/-- The lines of the help text. -/
def lines : List String :=
  ["",
    "kdotool - xdotool-style window control for KDE Plasma",
    "",
    "Usage:",
    "  kdotool [options] <command> [args...] [<command> [args...]]...",
    "",
    "Options:",
    "  -h, --help       Show this help",
    "  -V, --version    Show the version",
    "  -d, --debug      Enable debug output",
    "  -n, --dry-run    Don't run the script, just print it to stdout",
    "  --log            Write a log file (directory: $KDOTOOL_LOG_DIR or ./logs)",
    "",
    "Commands:",
    row "search <term>" "Windows whose title, class, name and role match <term>",
    row "getactivewindow" "The active window"] ++
  actionRows ++
  ["",
    "Window can be specified as:",
    "  %1            the first window in the stack (default)",
    "  %2            the second window in the stack",
    "  %@            all windows in the stack",
    "  <window id>   the window with the given ID",
    ""]

/-- The help text. -/
def text : String := String.intercalate "\n" lines

end Usage

end WindowScript
