/-
# No injection into scripts

Search terms, window ids and markers reach a script in literals only. Whatever
they hold, the literals of a script denote the texts that they stand for, in their
places, and the code around them is the code of the same script with other texts
of the user. This is a property of the text alone: it is found by a scanner that
does not know how the text was put together.
-/

import WindowScript.Proofs.Script.Quiet
import WindowScript.Proofs.Script.Staging

namespace WindowScript

/-- A step without the texts of the user: its kind, its action and its position. -/
def Step.outline : Step → Step
  | .search _ _ => .search "" false
  | .activeWindow => .activeWindow
  | .onWindow action _ => .onWindow action ""
  | .onStackItem action position => .onStackItem action position
  | .onStack action => .onStack action
  | .report => .report

namespace Script

/-! ## Code without quotes -/

theorem quote_mem_sought : ['"'] ∈ sought := by decide

theorem quote_not_mem_windowList (target : Target) : '"' ∉ (windowList target).toList :=
  quiet_singleton_iff.mp (quiet_windowList (.inl rfl) target)

theorem quote_not_mem_fragment (action : Action) : '"' ∉ action.fragment.toList :=
  quiet_singleton_iff.mp (quiet_fragment quote_mem_sought action)

theorem quote_not_mem_decimalInt (n : Int) : '"' ∉ (Number.decimalInt n).toList :=
  quiet_singleton_iff.mp (quiet_decimalInt quote_mem_sought n)

theorem quote_not_mem_filter (matchAny : Bool) :
    '"' ∉ (if matchAny then anyFilter else allFilter).toList :=
  quiet_singleton_iff.mp (quiet_filter quote_mem_sought matchAny)

theorem quoteless_debugBody (target : Target) : Quoteless (debugBody target) := by
  unfold debugBody
  split
  · exact ⟨toList_ofList_of ('"' ∉ ·) (by decide), toList_ofList_of ('"' ∉ ·) (by decide), trivial⟩
  · trivial

theorem quoteless_prologue (target : Target) : Quoteless (prologue target) := by
  refine Quoteless.append (Quoteless.append ?_ (quoteless_debugBody target)) ?_
  all_goals
    simp only [headLiteral, Quoteless, and_true]
    and_intros <;> exact toList_ofList_of ('"' ∉ ·) (by decide +kernel)

theorem quoteless_epilogue (target : Target) : Quoteless (epilogue target) := by
  simp only [epilogue, headLiteral, Quoteless, and_true]
  and_intros <;> exact toList_ofList_of ('"' ∉ ·) (by decide +kernel)

theorem quoteless_stepPieces (target : Target) (step : Step) :
    Quoteless (stepPieces target step) := by
  -- What is left of each case are the fixed texts of its code.
  cases step
  all_goals
    simp only [stepPieces, searchPieces, activeWindowPieces, onWindowPieces, onStackItemPieces,
      onStackPieces, reportPieces, debugLine, List.cons_append, List.nil_append, Quoteless,
      String.toList_append, List.mem_append, not_or, quote_not_mem_windowList,
      quote_not_mem_filter, quote_not_mem_decimalInt, quote_not_mem_fragment, not_false_eq_true,
      true_and, and_true]
    and_intros <;> exact toList_ofList_of ('"' ∉ ·) (by decide +kernel)

theorem quoteless_flatMap_stepPieces (target : Target) (steps : List Step) :
    Quoteless (steps.flatMap (stepPieces target)) := by
  induction steps with
  | nil => trivial
  | cons step steps ih =>
      rw [List.flatMap_cons]
      exact (quoteless_stepPieces target step).append ih

theorem quoteless_scriptPieces (target : Target) (steps : List Step) :
    Quoteless (scriptPieces target steps) :=
  ((quoteless_prologue target).append (quoteless_flatMap_stepPieces target steps)).append
    (quoteless_epilogue target)

/-! ## Literals -/

/-- The texts that the literals of a step denote. -/
def stepLiterals : Step → List String
  | .search term _ => ["STEP search " ++ term, term, "i"]
  | .activeWindow => ["STEP getactivewindow"]
  | .onWindow action id => ["STEP " ++ action.verb, id]
  | .onStackItem action position => ["STEP " ++ action.verb, outOfRange position]
  | .onStack action => ["STEP " ++ action.verb]
  | .report => []

/-- The texts that the literals of a script denote. -/
def scriptLiterals (target : Target) (steps : List Step) : List String :=
  [target.marker ++ " START"] ++
  (if target.debug then [target.marker ++ " DEBUG"] else []) ++
  [target.marker ++ " ERROR", target.marker ++ " RESULT"] ++
  steps.flatMap stepLiterals ++
  [target.marker ++ " FINISH"]

theorem filterMap_value?_stepPieces (target : Target) (step : Step) :
    (stepPieces target step).filterMap Piece.value? = stepLiterals step := by
  cases step <;> rfl

theorem filterMap_value?_flatMap_stepPieces (target : Target) (steps : List Step) :
    (steps.flatMap (stepPieces target)).filterMap Piece.value? = steps.flatMap stepLiterals := by
  induction steps with
  | nil => rfl
  | cons step steps ih =>
      rw [List.flatMap_cons, List.filterMap_append, filterMap_value?_stepPieces, ih,
        List.flatMap_cons]

theorem filterMap_value?_prologue (target : Target) :
    (prologue target).filterMap Piece.value? =
      [target.marker ++ " START"] ++
      (if target.debug then [target.marker ++ " DEBUG"] else []) ++
      [target.marker ++ " ERROR", target.marker ++ " RESULT"] := by
  cases hdebug : target.debug <;>
    simp [prologue, debugBody, headLiteral, hdebug, List.filterMap_cons, Piece.value?,
      Journal.head, Journal.Channel.tag, String.append_assoc]

theorem filterMap_value?_scriptPieces (target : Target) (steps : List Step) :
    (scriptPieces target steps).filterMap Piece.value? = scriptLiterals target steps := by
  rw [scriptPieces, List.filterMap_append, List.filterMap_append, filterMap_value?_prologue,
    filterMap_value?_flatMap_stepPieces, scriptLiterals]
  simp [epilogue, headLiteral, List.filterMap_cons, Piece.value?, Journal.head,
    Journal.Channel.tag, String.append_assoc]

/-! ## Code -/

/-- The code of a script, from what it may depend on. -/
def scriptCode (debug kde5 : Bool) (outlines : List Step) : String :=
  String.join ((scriptPieces ⟨"", debug, kde5⟩ outlines).map Piece.erased)

theorem map_erased_stepPieces (target : Target) {step : Step}
    (hstep : ∀ term, step ≠ .search term true) :
    (stepPieces target step).map Piece.erased =
      (stepPieces ⟨"", target.debug, target.kde5⟩ step.outline).map Piece.erased := by
  cases step with
  | search term matchAny =>
      cases matchAny with
      | false => rfl
      | true => exact absurd rfl (hstep term)
  | _ => rfl

theorem map_erased_flatMap_stepPieces (target : Target) {steps : List Step}
    (hsteps : ∀ term, .search term true ∉ steps) :
    (steps.flatMap (stepPieces target)).map Piece.erased =
      ((steps.map Step.outline).flatMap
        (stepPieces ⟨"", target.debug, target.kde5⟩)).map Piece.erased := by
  induction steps with
  | nil => rfl
  | cons step steps ih =>
      have hhead : ∀ term, step ≠ .search term true :=
        fun term heq => hsteps term (heq ▸ List.mem_cons_self)
      have htail := ih fun term hmem => hsteps term (List.mem_cons_of_mem step hmem)
      rw [List.flatMap_cons, List.map_append, map_erased_stepPieces target hhead, htail,
        List.map_cons, List.flatMap_cons, List.map_append]

theorem map_erased_scriptPieces (target : Target) {steps : List Step}
    (hsteps : ∀ term, .search term true ∉ steps) :
    (scriptPieces target steps).map Piece.erased =
      (scriptPieces ⟨"", target.debug, target.kde5⟩ (steps.map Step.outline)).map
        Piece.erased := by
  have hprologue : (prologue target).map Piece.erased =
      (prologue ⟨"", target.debug, target.kde5⟩).map Piece.erased := by
    cases hdebug : target.debug <;>
      simp [prologue, debugBody, headLiteral, hdebug, Piece.erased]
  simp only [scriptPieces, List.map_append, hprologue, map_erased_flatMap_stepPieces target hsteps]
  rfl

theorem erased?_render (target : Target) {steps : List Step}
    (hsteps : ∀ term, .search term true ∉ steps) :
    erased? (render target steps) =
      some (scriptCode target.debug target.kde5 (steps.map Step.outline)) := by
  rw [render, erased?_joinPieces (quoteless_scriptPieces target steps),
    map_erased_scriptPieces target hsteps, scriptCode]

theorem literals?_render (target : Target) (steps : List Step) :
    literals? (render target steps) = some (scriptLiterals target steps) := by
  rw [render, literals?_joinPieces (quoteless_scriptPieces target steps),
    filterMap_value?_scriptPieces]

/-! ## Compiled scripts -/

/-- Cut by the scanner, the literals of a compiled script denote the lines of its
marker and the texts of its steps, and nothing else. With the literals emptied, any
two scripts for the same options whose steps have the same outline have the same
text, whatever their markers, search terms and window ids are. -/
theorem compile_confines_texts {target : Target} {tokens : List String} {compiled : Compiled}
    (hcompile : compile target tokens = .ok compiled) :
    literals? compiled.text = some (scriptLiterals target compiled.steps) ∧
    ∀ {target' : Target} {tokens' : List String} {compiled' : Compiled},
      compile target' tokens' = .ok compiled' →
      target'.debug = target.debug → target'.kde5 = target.kde5 →
      compiled'.steps.map Step.outline = compiled.steps.map Step.outline →
      ∃ code, erased? compiled.text = some code ∧ erased? compiled'.text = some code := by
  obtain ⟨commands, -, rfl⟩ := compile_eq_ok_iff.mp hcompile
  dsimp only
  refine ⟨literals?_render target (stepsAfter false commands), ?_⟩
  intro target' tokens' compiled' hcompile' hdebug hkde5 houtline
  obtain ⟨commands', -, rfl⟩ := compile_eq_ok_iff.mp hcompile'
  dsimp only at houtline ⊢
  refine ⟨_, erased?_render target (searchAny_not_mem_stepsAfter false commands), ?_⟩
  rw [erased?_render target' (searchAny_not_mem_stepsAfter false commands'), hdebug, hkde5,
    houtline]

theorem compile_confines_texts_quotes :
    ∃ compiled compiled',
      compile ⟨"\\", true, false⟩ ["search", "\"+w+\"", "windowkill", "\"); w.x(\""] =
        .ok compiled ∧
      compile ⟨"m", true, false⟩ ["search", "kate", "windowkill", "7"] = .ok compiled' ∧
      literals? compiled.text = some
        ["\\ START", "\\ DEBUG", "\\ ERROR", "\\ RESULT", "STEP search \"+w+\"", "\"+w+\"", "i",
          "STEP windowkill", "\"); w.x(\"", "\\ FINISH"] ∧
      ∃ code, erased? compiled.text = some code ∧ erased? compiled'.text = some code := by
  have hterm : Pattern.fault? "\"+w+\"" = none := by decide +kernel
  have hterm' : Pattern.fault? "kate" = none := by decide +kernel
  have hcompile := compile_of_parse
    (parse_cons (read_search rfl hterm ["windowkill", "\"); w.x(\""])
      (parse_cons rfl parse_nil)) ⟨"\\", true, false⟩
  have hcompile' := compile_of_parse
    (parse_cons (read_search rfl hterm' ["windowkill", "7"])
      (parse_cons rfl parse_nil)) ⟨"m", true, false⟩
  have hconfined := compile_confines_texts hcompile
  refine ⟨_, _, hcompile, hcompile', ?_, hconfined.2 hcompile' rfl rfl rfl⟩
  rw [hconfined.1]
  rfl

end Script

end WindowScript
