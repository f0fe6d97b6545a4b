/-
# Steps of a script

A command becomes one step of the script. A step that matches any field exists
beside the one that matches all of them, although no command asks for it yet. A
script that ends in a query gets a last step that reports the windows found.
-/

import WindowScript.Command.Basic

namespace WindowScript

/-- One step of a script. -/
inductive Step
  | search (term : String) (matchAny : Bool)
  | activeWindow
  | onWindow (action : Action) (id : String)
  | onStackItem (action : Action) (position : Int)
  | onStack (action : Action)
  | report
  deriving DecidableEq, Repr

namespace Step

/-- The word for the kind of a step, as events name it. -/
def word : Step → String
  | .search _ _ => "search"
  | .activeWindow => "getactivewindow"
  | .onWindow _ _ => "action_on_id"
  | .onStackItem _ _ => "action_on_stack_item"
  | .onStack _ => "action_on_stack_all"
  | .report => "final_output"

/-- The step of an action on the selected windows. -/
def ofSelector (action : Action) : Selector → Step
  | .window id => .onWindow action id
  | .index position => .onStackItem action position
  | .all => .onStack action

/-- The step of a command. A search asks for a match of all fields. -/
def ofCommand : Command → Step
  | .search term => .search term false
  | .activeWindow => .activeWindow
  | .act action selector => ofSelector action selector

end Step

end WindowScript
