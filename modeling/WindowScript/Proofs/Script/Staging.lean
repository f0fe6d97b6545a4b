/-
# Compiling in stages

Compilation reads, lowers and renders in one pass. It does the same as three
passes: read the whole command line, turn each command into its step, and render
the steps. The pass carries whether the last command was a query, and this is what
the steps of the commands that are left have to be told about the commands before
them. An error is the error of reading, whenever it is found.
-/

import WindowScript.Script.Compile

namespace WindowScript.Script

open WindowScript.Command (TermCheck)

/-! ## Rendering -/

theorem joinPieces_append (first second : List Piece) :
    joinPieces (first ++ second) = joinPieces first ++ joinPieces second := by
  rw [joinPieces, List.map_append, String.join_append]
  rfl

theorem joinPieces_flatMap (target : Target) (steps : List Step) :
    joinPieces (steps.flatMap (stepPieces target)) =
      String.join (steps.map fun step => joinPieces (stepPieces target step)) := by
  induction steps with
  | nil => rfl
  | cons step steps ih =>
      rw [List.flatMap_cons, joinPieces_append, ih, List.map_cons, String.join_cons]

/-- A script is its frame around the texts of its steps. -/
theorem render_eq (target : Target) (steps : List Step) :
    render target steps = joinPieces (prologue target) ++
      String.join (steps.map fun step => joinPieces (stepPieces target step)) ++
      joinPieces (epilogue target) := by
  rw [render, scriptPieces, joinPieces_append, joinPieces_append, joinPieces_flatMap]

/-! ## Lowering -/

/-- The steps of the commands that follow one that was a query or not. -/
def stepsAfter (lastIsQuery : Bool) (commands : List Command) : List Step :=
  commands.map Step.ofCommand ++
    if (commands.getLast?.map Command.isQuery).getD lastIsQuery then [.report] else []

theorem stepsAfter_cons (lastIsQuery : Bool) (command : Command) (commands : List Command) :
    stepsAfter lastIsQuery (command :: commands) =
      Step.ofCommand command :: stepsAfter command.isQuery commands := by
  cases commands with
  | nil => rfl
  | cons next rest => rfl

/-- Whether a report is due depends on the last command only. -/
theorem stepsAfter_append (lastIsQuery : Bool) (commands : List Command)
    {following : List Command} (hfollowing : following ≠ []) :
    stepsAfter lastIsQuery (commands ++ following) =
      commands.map Step.ofCommand ++ stepsAfter false following := by
  have hlast : following.getLast? = some (following.getLast hfollowing) :=
    List.getLast?_eq_some_getLast hfollowing
  rw [stepsAfter, stepsAfter, List.getLast?_append, hlast, List.map_append, List.append_assoc]
  rfl

/-- The steps of a whole command line: one for each command, and a report at the
end if the last command was a query. -/
theorem stepsAfter_false (commands : List Command) :
    stepsAfter false commands =
      commands.map Step.ofCommand ++
        if commands.getLast?.any Command.isQuery then [.report] else [] := by
  rw [stepsAfter]
  cases commands.getLast? with
  | none => rfl
  | some last => rfl

theorem ofCommand_ne_report (command : Command) : Step.ofCommand command ≠ .report := by
  cases command with
  | search term => simp [Step.ofCommand]
  | activeWindow => simp [Step.ofCommand]
  | act action selector => cases selector <;> simp [Step.ofCommand, Step.ofSelector]

theorem ofCommand_ne_searchAny (command : Command) (term : String) :
    Step.ofCommand command ≠ .search term true := by
  cases command with
  | search term => simp [Step.ofCommand]
  | activeWindow => simp [Step.ofCommand]
  | act action selector => cases selector <;> simp [Step.ofCommand, Step.ofSelector]

theorem stepsAfter_eq_or_report (lastIsQuery : Bool) (commands : List Command) :
    stepsAfter lastIsQuery commands = commands.map Step.ofCommand ∨
      stepsAfter lastIsQuery commands = commands.map Step.ofCommand ++ [.report] := by
  rw [stepsAfter]
  split
  · exact Or.inr rfl
  · exact Or.inl (List.append_nil _)

theorem report_not_mem_map (commands : List Command) :
    Step.report ∉ commands.map Step.ofCommand := by
  intro hmem
  obtain ⟨command, -, hreport⟩ := List.mem_map.mp hmem
  exact ofCommand_ne_report command hreport

theorem count_report_stepsAfter_le (lastIsQuery : Bool) (commands : List Command) :
    (stepsAfter lastIsQuery commands).count .report ≤ 1 := by
  have hzero := List.count_eq_zero_of_not_mem (report_not_mem_map commands)
  rcases stepsAfter_eq_or_report lastIsQuery commands with hsteps | hsteps
  · rw [hsteps, hzero]
    exact Nat.zero_le 1
  · have hone : (stepsAfter lastIsQuery commands).count .report = 1 := by
      rw [hsteps, List.count_append, hzero, List.count_singleton_self]
    exact Nat.le_of_eq hone

/-- A report stands nowhere but at the end. -/
theorem getElem?_stepsAfter_eq_report {lastIsQuery : Bool} {commands : List Command} {i : Nat}
    (hreport : (stepsAfter lastIsQuery commands)[i]? = some .report) :
    i + 1 = (stepsAfter lastIsQuery commands).length := by
  rcases stepsAfter_eq_or_report lastIsQuery commands with hsteps | hsteps
  · rw [hsteps] at hreport
    exact absurd (List.mem_of_getElem? hreport) (report_not_mem_map commands)
  · rw [hsteps] at hreport ⊢
    rw [List.getElem?_append] at hreport
    split at hreport
    · exact absurd (List.mem_of_getElem? hreport) (report_not_mem_map commands)
    · have hlast := (List.getElem?_eq_some_iff.mp hreport).1
      rw [List.length_append]
      simp only [List.length_singleton] at hlast ⊢
      omega

theorem searchAny_not_mem_stepsAfter (lastIsQuery : Bool) (commands : List Command)
    (term : String) : Step.search term true ∉ stepsAfter lastIsQuery commands := by
  intro hmem
  have hmap : Step.search term true ∈ commands.map Step.ofCommand := by
    rcases stepsAfter_eq_or_report lastIsQuery commands with hsteps | hsteps
    · rwa [hsteps] at hmem
    · simpa [hsteps] using hmem
  obtain ⟨command, -, hsearch⟩ := List.mem_map.mp hmap
  exact ofCommand_ne_searchAny command term hsearch

/-! ## The pass -/

/-- One pass over the tokens that are left does what the stages do. -/
theorem compileRest_eq (check : TermCheck) (target : Target) (lastIsQuery : Bool)
    (tokens : List String) :
    compileRest check target lastIsQuery tokens =
      (Command.parseWith check tokens).map fun commands =>
        { steps := stepsAfter lastIsQuery commands
          text := String.join ((stepsAfter lastIsQuery commands).map fun step =>
            joinPieces (stepPieces target step)) ++ joinPieces (epilogue target) } := by
  induction lastIsQuery, tokens using compileRest.induct check with
  | case1 lastIsQuery =>
      rw [compileRest, Command.parseWith]
      cases lastIsQuery with
      | false => rfl
      | true => simp [ending, stepsAfter, Compiled.cons, Except.map]
  | case2 lastIsQuery verb tokens error herror =>
      rw [compileRest, Command.parseWith, herror]
      rfl
  | case3 lastIsQuery verb tokens command hcommand ih =>
      rw [compileRest, Command.parseWith, hcommand]
      simp only [ih]
      cases Command.parseWith check (Command.read check verb tokens).rest with
      | error error => rfl
      | ok commands =>
          simp [Except.map, Compiled.cons, stepsAfter_cons, String.append_assoc]

/-- Compiling is reading, lowering and rendering. -/
theorem compileWith_eq (check : TermCheck) (target : Target) (tokens : List String) :
    compileWith check target tokens =
      (Command.parseWith check tokens).map fun commands =>
        ⟨stepsAfter false commands, render target (stepsAfter false commands)⟩ := by
  rw [compileWith, compileRest_eq]
  cases Command.parseWith check tokens with
  | error error => rfl
  | ok commands => simp [Except.map, render_eq, String.append_assoc]

theorem compile_eq_error_iff {target : Target} {tokens : List String} {error : Command.Error} :
    compile target tokens = .error error ↔ Command.parse tokens = .error error := by
  rw [compile, compileWith_eq, Command.parse]
  cases Command.parseWith Pattern.fault? tokens <;> simp [Except.map]

theorem compile_eq_ok_iff {target : Target} {tokens : List String} {compiled : Compiled} :
    compile target tokens = .ok compiled ↔
      ∃ commands, Command.parse tokens = .ok commands ∧
        compiled = ⟨stepsAfter false commands, render target (stepsAfter false commands)⟩ := by
  rw [compile, compileWith_eq, Command.parse]
  cases Command.parseWith Pattern.fault? tokens <;> simp [Except.map, eq_comm]

theorem compile_of_parse {tokens : List String} {commands : List Command}
    (hparse : Command.parse tokens = .ok commands) (target : Target) :
    compile target tokens =
      .ok ⟨stepsAfter false commands, render target (stepsAfter false commands)⟩ :=
  compile_eq_ok_iff.mpr ⟨commands, hparse, rfl⟩

/-- A command line is read from its first command on. -/
theorem parse_cons {verb : String} {tokens rest : List String} {command : Command}
    {commands : List Command}
    (hread : Command.read Pattern.fault? verb tokens = ⟨.ok command, rest⟩)
    (hrest : Command.parse rest = .ok commands) :
    Command.parse (verb :: tokens) = .ok (command :: commands) := by
  rw [Command.parse] at hrest
  rw [Command.parse, Command.parseWith, hread]
  simp only [hrest]
  rfl

theorem parse_nil : Command.parse [] = .ok [] := by
  rw [Command.parse, Command.parseWith]

theorem read_search {term : String} (hoption : Command.isOption term = false)
    (hterm : Pattern.fault? term = none) (tokens : List String) :
    Command.read Pattern.fault? "search" (term :: tokens) = ⟨.ok (.search term), tokens⟩ := by
  have hverb : Command.isOption "search" = false := by decide
  simp [Command.read, Command.readSearch, hverb, hoption, hterm]

/-- One pass does what reading, lowering and rendering do one after the other. It
fails when reading fails, with the same error for every target. Otherwise there is one
step for each command, and a report after them exactly if the last command is a
query, and the text is the frame around the texts of the steps. -/
theorem compile_staged (target : Target) (tokens : List String) :
    (∀ error, compile target tokens = .error error ↔ Command.parse tokens = .error error) ∧
    ∀ commands, Command.parse tokens = .ok commands →
      ∃ compiled, compile target tokens = .ok compiled ∧
        compiled.steps = commands.map Step.ofCommand ++
          (if commands.getLast?.any Command.isQuery then [.report] else []) ∧
        compiled.text = joinPieces (prologue target) ++
          String.join (compiled.steps.map fun step => joinPieces (stepPieces target step)) ++
          joinPieces (epilogue target) ∧
        compiled.steps.count .report ≤ 1 ∧
        (∀ i, compiled.steps[i]? = some .report → i + 1 = compiled.steps.length) ∧
        ∀ term, Step.search term true ∉ compiled.steps := by
  refine ⟨fun error => compile_eq_error_iff, fun commands hcommands => ?_⟩
  refine ⟨_, compile_of_parse hcommands target, ?_, ?_, ?_, ?_, ?_⟩ <;> dsimp only
  · exact stepsAfter_false commands
  · exact render_eq target (stepsAfter false commands)
  · exact count_report_stepsAfter_le false commands
  · exact fun i => getElem?_stepsAfter_eq_report
  · exact searchAny_not_mem_stepsAfter false commands

theorem compile_staged_search :
    Command.parse ["windowclose", "-f", "search", "kate"] =
        .ok [.act .close .first, .search "kate"] ∧
      ∃ compiled, compile ⟨"m", false, false⟩ ["windowclose", "-f", "search", "kate"] =
          .ok compiled ∧
        compiled.steps = [.onStackItem .close 1, .search "kate" false, .report] := by
  have hterm : Pattern.fault? "kate" = none := by decide +kernel
  have hparse : Command.parse ["windowclose", "-f", "search", "kate"] =
      .ok [.act .close .first, .search "kate"] :=
    parse_cons rfl (parse_cons (read_search rfl hterm []) parse_nil)
  obtain ⟨compiled, hcompile, hsteps, -⟩ :=
    (compile_staged ⟨"m", false, false⟩ ["windowclose", "-f", "search", "kate"]).2 _ hparse
  refine ⟨hparse, compiled, hcompile, ?_⟩
  rw [hsteps]
  rfl

end WindowScript.Script
