/-
# Script text

A script is rendered as pieces of code with string literals between them. User
text and markers stand in literals only, so the code depends on nothing but the
target and the kinds of the steps. No code piece holds a double quote. Every step
is a block of its own, so that steps never see each other's variables.
-/

import WindowScript.Journal.Line
import WindowScript.Number.Decimal
import WindowScript.Script.Literal
import WindowScript.Script.Step

namespace WindowScript.Script

/-- What a script is rendered for: the marker of the run, whether it reports what
it does, and whether it is for version 5 of the compositor. -/
structure Target where
  marker : String
  debug : Bool
  kde5 : Bool
  deriving DecidableEq, Repr

/-- A piece of script text. -/
inductive Piece
  | code (text : String)
  | literal (value : String)
  deriving DecidableEq, Repr

/-- The text of a piece. -/
def Piece.text : Piece → String
  | .code text => text
  | .literal value => Script.literal value

/-- The text of pieces, one after the other. -/
def joinPieces (pieces : List Piece) : String := String.join (pieces.map Piece.text)

/-- The literal that a script prints at the head of a line. -/
def headLiteral (target : Target) (channel : Journal.Channel) : Piece :=
  .literal (Journal.head target.marker channel)

/-- The call that lists all windows. -/
def windowList (target : Target) : String :=
  if target.kde5 then "workspace.clientList()" else "workspace.windowList()"

/-- The line that announces a step. -/
def debugLine (label : String) : List Piece :=
  [.code "        output_debug(", .literal label, .code ");\n"]

/-- The body of the function that prints debug lines. -/
def debugBody (target : Target) : List Piece :=
  if target.debug then
    [.code "    print(", headLiteral target .debug, .code ", message);\n"]
  else []

/-- What stands before the steps. -/
def prologue (target : Target) : List Piece :=
  [.code "print(", headLiteral target .start,
    .code ");\n\nfunction output_debug(message) \x7b\n"] ++
  debugBody target ++
  [.code "\x7d\n\nfunction output_error(message) \x7b\n    print(",
    headLiteral target .error,
    .code ", message);\n\x7d\n\nfunction output_result(message) \x7b\n    print(",
    headLiteral target .result,
    .code ", message);\n\x7d\n\nfunction run() \x7b\n    var window_stack = [];\n"]

/-- What stands after the steps. -/
def epilogue (target : Target) : List Piece :=
  [.code "\x7d\n\nrun();\n\nprint(", headLiteral target .finish, .code ");\n"]

/-- The filter of a search that keeps a window at its first matching field. -/
def anyFilter : String :=
  "            for (var j = 0; j < candidates.length; j++) \x7b\n" ++
  "                if (candidates[j].search(re) >= 0) \x7b\n" ++
  "                    window_stack.push(w);\n" ++
  "                    break;\n" ++
  "                \x7d\n" ++
  "            \x7d\n"

/-- The filter of a search that drops a window at its first mismatch. -/
def allFilter : String :=
  "            var mismatch = false;\n" ++
  "            for (var j = 0; j < candidates.length; j++) \x7b\n" ++
  "                if (candidates[j].search(re) < 0) \x7b\n" ++
  "                    mismatch = true;\n" ++
  "                    break;\n" ++
  "                \x7d\n" ++
  "            \x7d\n" ++
  "            if (!mismatch) \x7b\n" ++
  "                window_stack.push(w);\n" ++
  "            \x7d\n"

/-- The pieces of a search. -/
def searchPieces (target : Target) (term : String) (matchAny : Bool) : List Piece :=
  [.code "    \x7b\n"] ++ debugLine ("STEP search " ++ term) ++
  [.code "        const re = new RegExp(", .literal term, .code ", ", .literal "i",
    .code ");\n        const t = ", .code (windowList target),
    .code (";\n        window_stack = [];\n" ++
     "        for (var i = 0; i < t.length; i++) \x7b\n" ++
     "            var w = t[i];\n" ++
     "            var candidates = [w.caption, w.resourceClass, w.resourceName, w.windowRole];\n" ++
     "            output_debug(candidates);\n"),
    .code (if matchAny then anyFilter else allFilter),
    .code "        \x7d\n    \x7d\n"]

/-- The pieces that take the active window. -/
def activeWindowPieces : List Piece :=
  [.code "    \x7b\n"] ++ debugLine "STEP getactivewindow" ++
  [.code "        window_stack = [workspace.activeWindow];\n    \x7d\n"]

/-- The pieces of an action on the window with a given id. -/
def onWindowPieces (target : Target) (action : Action) (id : String) : List Piece :=
  [.code "    \x7b\n"] ++ debugLine ("STEP " ++ action.verb) ++
  [.code "        const t = ", .code (windowList target),
    .code (";\n        for (var i = 0; i < t.length; i++) \x7b\n" ++
      "            var w = t[i];\n" ++
      "            if (w.internalId == "),
    .literal id,
    .code (") \x7b\n                " ++ action.fragment ++ "\n" ++
      "                break;\n" ++
      "            \x7d\n" ++
      "        \x7d\n" ++
      "    \x7d\n")]

/-- The message about a stack position that no window has. -/
def outOfRange (position : Int) : String :=
  "Invalid window stack selection '" ++ Number.decimalInt position ++ "' (out of range)"

/-- The pieces of an action on one window of the stack. -/
def onStackItemPieces (action : Action) (position : Int) : List Piece :=
  let index := Number.decimalInt position
  [.code "    \x7b\n"] ++ debugLine ("STEP " ++ action.verb) ++
  [.code ("        if (window_stack.length > 0) \x7b\n            if (" ++ index ++
      " > window_stack.length || " ++ index ++ " < 1) \x7b\n                output_error("),
    .literal (outOfRange position),
    .code (");\n            \x7d else \x7b\n                var w = window_stack[" ++ index ++
      " - 1];\n                " ++ action.fragment ++ "\n" ++
      "            \x7d\n" ++
      "        \x7d\n" ++
      "    \x7d\n")]

/-- The pieces of an action on every window of the stack. -/
def onStackPieces (action : Action) : List Piece :=
  [.code "    \x7b\n"] ++ debugLine ("STEP " ++ action.verb) ++
  [.code ("        for (var i = 0; i < window_stack.length; i++) \x7b\n" ++
      "            var w = window_stack[i];\n            " ++ action.fragment ++ "\n" ++
      "        \x7d\n" ++
      "    \x7d\n")]

/-- The pieces that report the windows of the stack. -/
def reportPieces : List Piece :=
  [.code ("    \x7b\n" ++
    "        for (var i = 0; i < window_stack.length; i++) \x7b\n" ++
    "            output_result(window_stack[i].internalId);\n" ++
    "        \x7d\n" ++
    "    \x7d\n")]

/-- The pieces of a step. -/
def stepPieces (target : Target) : Step → List Piece
  | .search term matchAny => searchPieces target term matchAny
  | .activeWindow => activeWindowPieces
  | .onWindow action id => onWindowPieces target action id
  | .onStackItem action position => onStackItemPieces action position
  | .onStack action => onStackPieces action
  | .report => reportPieces

/-- The pieces of a whole script. -/
def scriptPieces (target : Target) (steps : List Step) : List Piece :=
  prologue target ++ steps.flatMap (stepPieces target) ++ epilogue target

/-- The text of a whole script. -/
def render (target : Target) (steps : List Step) : String :=
  joinPieces (scriptPieces target steps)

end WindowScript.Script
