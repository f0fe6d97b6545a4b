/-
# Actions on a window

Every action has a verb on the command line and a fragment of script that acts on
the window bound to `w`. Queries report through `output_result`; mutations only
touch the window.
-/

namespace WindowScript

/-- What can be done to a window. -/
inductive Action
  | getName
  | getClassName
  | getGeometry
  | getPid
  | minimize
  | raise
  | close
  | kill
  | activate
  deriving DecidableEq, Repr

namespace Action

/-- Queries report something about a window, mutations change it. -/
inductive Kind
  | query
  | mutation
  deriving DecidableEq, Repr

/-- The word for a kind. -/
def Kind.word : Kind → String
  | .query => "query"
  | .mutation => "mutation"

/-- What the catalog says about an action. -/
structure Entry where
  verb : String
  kind : Kind
  fragment : String
  description : String
  deriving Repr

/-- The catalog of actions. -/
def entry : Action → Entry
  | .getName =>
      ⟨"getwindowname", .query, "output_result(w.caption);", "Print the window title"⟩
  | .getClassName =>
      ⟨"getwindowclassname", .query, "output_result(w.resourceClass);",
        "Print the window class"⟩
  | .getGeometry =>
      ⟨"getwindowgeometry", .query,
        "output_result(`Window $\x7bw.internalId\x7d`); " ++
          "output_result(`  Position: $\x7bw.x\x7d,$\x7bw.y\x7d`); " ++
          "output_result(`  Geometry: $\x7bw.width\x7dx$\x7bw.height\x7d`);",
        "Print the window position and size"⟩
  | .getPid =>
      ⟨"getwindowpid", .query, "output_result(w.pid);", "Print the PID owning the window"⟩
  | .minimize =>
      ⟨"windowminimize", .mutation, "w.minimized = true;", "Minimize the window"⟩
  | .raise =>
      ⟨"windowraise", .mutation, "workspace.raiseWindow(w);",
        "Raise the window to the top of the stacking order"⟩
  | .close =>
      ⟨"windowclose", .mutation, "w.closeWindow();", "Close the window"⟩
  | .kill =>
      ⟨"windowkill", .mutation, "w.killWindow();", "Kill the client owning the window"⟩
  | .activate =>
      ⟨"windowactivate", .mutation, "workspace.setActiveWindow(w);", "Activate the window"⟩

/-- The word that names the action on the command line. -/
def verb (action : Action) : String := action.entry.verb

/-- The script that performs the action on the window `w`. -/
def fragment (action : Action) : String := action.entry.fragment

/-- Every action, in the order of the catalog. -/
def all : List Action :=
  [.getName, .getClassName, .getGeometry, .getPid, .minimize, .raise, .close, .kill, .activate]

/-- The action that a word names. -/
def ofVerb? (word : String) : Option Action := all.find? fun action => action.verb = word

/-- Verbs are read back as the actions they name. -/
@[simp]
theorem ofVerb?_verb (action : Action) : ofVerb? action.verb = some action := by
  cases action <;> decide

end Action

end WindowScript
