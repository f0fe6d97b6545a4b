/-
# What the flags of a target change

A target has two flags besides its marker. One adds a line to the script, the body of
the function that prints debug lines. The other chooses the call that lists all
windows, wherever a step uses it. Neither has a say in what is accepted, in the error
or in the steps.

What the second flag changes is harder to tell from the text, since a search term, a
window id or a marker may spell out either call. So the text is cut by the scanner, and
calls are looked for in the code only. No piece of code but the call itself holds a
call or the start of one, hence no call is found across the border of two pieces.
-/

import WindowScript.Proofs.Script.Decodability
import WindowScript.Proofs.Script.Heads
import WindowScript.Proofs.Script.Literal

namespace WindowScript

/-- Whether a step lists all windows. -/
def Step.listsWindows : Step → Bool
  | .search _ _ => true
  | .onWindow _ _ => true
  | _ => false

namespace Script

/-! ## Replacing in code -/

/-- What stands between the quotes of a literal. -/
def Lexeme.body? : Lexeme → Option (List Char)
  | .code _ => none
  | .literal body => some body

/-- How often a text stands in the code. -/
def occurrences (text : List Char) : List Lexeme → Nat
  | [] => 0
  | lexeme :: rest =>
      (if text.map .code <+: lexeme :: rest then 1 else 0) + occurrences text rest

/-- Replace a text wherever it stands in the code, from left to right. -/
def replaceCode (old new : List Char) : List Lexeme → List Lexeme
  | [] => []
  | lexeme :: rest =>
      if old.map .code <+: lexeme :: rest then
        new.map .code ++ replaceCode old new (rest.drop (old.length - 1))
      else lexeme :: replaceCode old new rest
termination_by lexemes => lexemes.length
decreasing_by
  · rw [List.length_drop, List.length_cons]
    omega
  · exact Nat.lt_succ_self _

section

variable {old new code : List Char}

theorem replaceCode_append_of_quiet (hcode : quiet old code) (rest : List Lexeme) :
    replaceCode old new (code.map .code ++ rest) = code.map .code ++ replaceCode old new rest := by
  induction code with
  | nil => rfl
  | cons c code ih =>
      simp only [quiet, Bool.and_eq_true, decide_eq_true_eq] at hcode
      have hprefix : ¬ old.map .code <+: .code c :: (code.map .code ++ rest) :=
        not_prefix_of_diverge hcode.1 rest
      rw [List.map_cons, List.cons_append, replaceCode, if_neg hprefix, ih hcode.2]
      rfl

theorem occurrences_append_of_quiet (hcode : quiet old code) (rest : List Lexeme) :
    occurrences old (code.map .code ++ rest) = occurrences old rest := by
  induction code with
  | nil => rfl
  | cons c code ih =>
      simp only [quiet, Bool.and_eq_true, decide_eq_true_eq] at hcode
      have hprefix : ¬ old.map .code <+: .code c :: (code.map .code ++ rest) :=
        not_prefix_of_diverge hcode.1 rest
      rw [List.map_cons, List.cons_append, occurrences, if_neg hprefix, ih hcode.2, Nat.zero_add]

/-- A text that may be replaced: it is not empty, and it does not start inside itself. -/
def Replaceable (text : List Char) : Prop := text ≠ [] ∧ quiet text text.tail

theorem Replaceable.not_prefix_literal (hold : Replaceable old) (body : List Char)
    (rest : List Lexeme) : ¬ old.map .code <+: .literal body :: rest := by
  obtain ⟨c, text, rfl⟩ := List.exists_cons_of_ne_nil hold.1
  intro hprefix
  cases (List.cons_prefix_cons.mp hprefix).1

theorem Replaceable.replaceCode_self (hold : Replaceable old) (rest : List Lexeme) :
    replaceCode old new (old.map .code ++ rest) = new.map .code ++ replaceCode old new rest := by
  obtain ⟨c, text, rfl⟩ := List.exists_cons_of_ne_nil hold.1
  have hprefix : (c :: text).map .code <+: .code c :: (text.map .code ++ rest) :=
    List.prefix_append _ rest
  rw [List.map_cons, List.cons_append, replaceCode, if_pos hprefix]
  simp

theorem Replaceable.occurrences_self (hold : Replaceable old) (rest : List Lexeme) :
    occurrences old (old.map .code ++ rest) = 1 + occurrences old rest := by
  obtain ⟨c, text, rfl⟩ := List.exists_cons_of_ne_nil hold.1
  have hprefix : (c :: text).map .code <+: .code c :: (text.map .code ++ rest) :=
    List.prefix_append _ rest
  have htail : quiet (c :: text) text := hold.2
  rw [List.map_cons, List.cons_append, occurrences, if_pos hprefix,
    occurrences_append_of_quiet htail]

end

/-! ## Switching a piece -/

/-- Two lists of pieces that differ in `count` places, where one has the code `old` and
the other the code `new`. No other piece holds `old` or the start of it. -/
inductive Switched (old new : List Char) : List Piece → List Piece → Nat → Prop
  | nil : Switched old new [] [] 0
  | literal {value : String} {pieces pieces' : List Piece} {count : Nat}
      (hpieces : Switched old new pieces pieces' count) :
      Switched old new (.literal value :: pieces) (.literal value :: pieces') count
  | code {text : String} {pieces pieces' : List Piece} {count : Nat}
      (htext : quiet old text.toList) (hpieces : Switched old new pieces pieces' count) :
      Switched old new (.code text :: pieces) (.code text :: pieces') count
  | switch {pieces pieces' : List Piece} {count : Nat}
      (hpieces : Switched old new pieces pieces' count) :
      Switched old new (.code (String.ofList old) :: pieces) (.code (String.ofList new) :: pieces')
        (count + 1)

section

variable {old new : List Char} {pieces pieces' : List Piece} {count : Nat}

theorem Switched.append {more more' : List Piece} {added : Nat}
    (hpieces : Switched old new pieces pieces' count) (hmore : Switched old new more more' added) :
    Switched old new (pieces ++ more) (pieces' ++ more') (count + added) := by
  induction hpieces with
  | nil => simpa using hmore
  | literal _ ih => exact .literal ih
  | code htext _ ih => exact .code htext ih
  | switch _ ih =>
      rw [Nat.add_right_comm]
      exact .switch ih

theorem Switched.replaceCode_eq (hold : Replaceable old)
    (hpieces : Switched old new pieces pieces' count) :
    replaceCode old new (pieces.flatMap Piece.lexemes) = pieces'.flatMap Piece.lexemes := by
  induction hpieces with
  | nil => rw [List.flatMap_nil, replaceCode]
  | @literal value pieces pieces' count _ ih =>
      rw [List.flatMap_cons, List.flatMap_cons, Piece.lexemes, List.singleton_append, replaceCode,
        if_neg (hold.not_prefix_literal _ _), ih]
      rfl
  | code htext _ ih =>
      rw [List.flatMap_cons, List.flatMap_cons, Piece.lexemes, replaceCode_append_of_quiet htext,
        ih]
  | switch _ ih =>
      rw [List.flatMap_cons, List.flatMap_cons, Piece.lexemes, Piece.lexemes, String.toList_ofList,
        String.toList_ofList, hold.replaceCode_self, ih]

theorem Switched.occurrences_eq (hold : Replaceable old)
    (hpieces : Switched old new pieces pieces' count) :
    occurrences old (pieces.flatMap Piece.lexemes) = count := by
  induction hpieces with
  | nil => rfl
  | literal _ ih =>
      rw [List.flatMap_cons, Piece.lexemes, List.singleton_append, occurrences,
        if_neg (hold.not_prefix_literal _ _), Nat.zero_add, ih]
  | code htext _ ih =>
      rw [List.flatMap_cons, Piece.lexemes, occurrences_append_of_quiet htext, ih]
  | switch _ ih =>
      rw [List.flatMap_cons, Piece.lexemes, String.toList_ofList, hold.occurrences_self, ih,
        Nat.add_comm]

theorem filterMap_body?_code (text : String) (rest : List Lexeme) :
    ((Piece.code text).lexemes ++ rest).filterMap Lexeme.body? = rest.filterMap Lexeme.body? := by
  rw [List.filterMap_append, Piece.lexemes, List.filterMap_map]
  simp [Function.comp_def, Lexeme.body?]

theorem Switched.filterMap_body?_eq (hpieces : Switched old new pieces pieces' count) :
    (pieces'.flatMap Piece.lexemes).filterMap Lexeme.body? =
      (pieces.flatMap Piece.lexemes).filterMap Lexeme.body? := by
  induction hpieces with
  | nil => rfl
  | literal _ ih =>
      rw [List.flatMap_cons, List.flatMap_cons, List.filterMap_append, ih, List.filterMap_append]
  | code _ _ ih =>
      rw [List.flatMap_cons, List.flatMap_cons, filterMap_body?_code, filterMap_body?_code, ih]
  | switch _ ih =>
      rw [List.flatMap_cons, List.flatMap_cons, filterMap_body?_code, filterMap_body?_code, ih]

end

/-! ## The call that lists windows -/

/-- The same call for version 5 of the compositor. -/
def clientCall : List Char :=
  ['w', 'o', 'r', 'k', 's', 'p', 'a', 'c', 'e', '.', 'c', 'l', 'i', 'e', 'n', 't', 'L', 'i', 's',
    't', '(', ')']

theorem windowList_windows (marker : String) (debug : Bool) :
    windowList ⟨marker, debug, false⟩ = String.ofList windowCall := rfl

theorem windowList_clients (marker : String) (debug : Bool) :
    windowList ⟨marker, debug, true⟩ = String.ofList clientCall := rfl

theorem replaceable_windowCall : Replaceable windowCall :=
  ⟨by decide, by decide +kernel⟩

theorem switched_stepPieces (marker : String) (debug : Bool) (step : Step) :
    Switched windowCall clientCall (stepPieces ⟨marker, debug, false⟩ step)
      (stepPieces ⟨marker, debug, true⟩ step) (if step.listsWindows then 1 else 0) := by
  have hcall : windowCall ∈ sought := by decide
  cases step
  all_goals
    simp only [stepPieces, searchPieces, activeWindowPieces, onWindowPieces, onStackItemPieces,
      onStackPieces, reportPieces, debugLine, List.cons_append, List.nil_append, windowList_windows,
      windowList_clients, Step.listsWindows, if_true, Bool.false_eq_true, if_false]
    repeat'
      first
      | with_reducible exact Switched.nil
      | with_reducible apply Switched.literal
      | with_reducible apply Switched.code
      | with_reducible apply Switched.switch
    -- What is left are code texts of fixed parts with indices and fragments in them.
    all_goals repeat' with_reducible apply quiet_toList_append
    all_goals
      first
      | with_reducible exact quiet_decimalInt hcall _
      | with_reducible exact quiet_fragment hcall _
      | with_reducible exact quiet_filter hcall _
      | with_reducible exact quiet_ofList hcall (by decide +kernel)

theorem switched_flatMap_stepPieces (marker : String) (debug : Bool) (steps : List Step) :
    Switched windowCall clientCall (steps.flatMap (stepPieces ⟨marker, debug, false⟩))
      (steps.flatMap (stepPieces ⟨marker, debug, true⟩)) (steps.countP Step.listsWindows) := by
  induction steps with
  | nil => exact .nil
  | cons step steps ih =>
      rw [List.flatMap_cons, List.flatMap_cons, List.countP_cons, Nat.add_comm]
      exact (switched_stepPieces marker debug step).append ih

theorem switched_prologue (marker : String) (debug : Bool) :
    Switched windowCall clientCall (prologue ⟨marker, debug, false⟩)
      (prologue ⟨marker, debug, true⟩) 0 := by
  unfold prologue debugBody headLiteral
  cases debug
  all_goals
    simp only [if_true, Bool.false_eq_true, if_false, List.cons_append, List.nil_append]
    repeat'
      first
      | with_reducible exact Switched.nil
      | with_reducible apply Switched.literal
      | with_reducible apply Switched.code
    all_goals with_reducible exact toList_ofList_of (quiet windowCall ·) (by decide +kernel)

theorem switched_epilogue (marker : String) (debug : Bool) :
    Switched windowCall clientCall (epilogue ⟨marker, debug, false⟩)
      (epilogue ⟨marker, debug, true⟩) 0 := by
  unfold epilogue headLiteral
  apply Switched.code
  · with_reducible exact toList_ofList_of (quiet windowCall ·) (by decide +kernel)
  · apply Switched.literal
    apply Switched.code _ .nil
    with_reducible exact toList_ofList_of (quiet windowCall ·) (by decide +kernel)

theorem switched_scriptPieces (marker : String) (debug : Bool) (steps : List Step) :
    Switched windowCall clientCall (scriptPieces ⟨marker, debug, false⟩ steps)
      (scriptPieces ⟨marker, debug, true⟩ steps) (steps.countP Step.listsWindows) := by
  have hscript := ((switched_prologue marker debug).append
    (switched_flatMap_stepPieces marker debug steps)).append (switched_epilogue marker debug)
  rwa [Nat.zero_add, Nat.add_zero] at hscript

/-! ## The debug line -/

/-- What a script starts with, up to the body of the function that prints debug lines. -/
def debugOpening (marker : String) : String :=
  "print(" ++ literal (marker ++ " START") ++ ");\n\nfunction output_debug(message) \x7b\n"

/-- What follows the body of that function. -/
def debugClosing : String := "\x7d\n\nfunction output_error(message) \x7b\n    print("

/-- The statement that prints a debug line. -/
def debugStatement (marker : String) : String :=
  "    print(" ++ literal (marker ++ " DEBUG") ++ ", message);"

/-- A script with one line more than another, the body of the function that prints debug
lines. -/
def AddsDebugLine (marker plain debugged : String) : Prop :=
  ∃ rest, plain = debugOpening marker ++ debugClosing ++ rest ∧
    debugged = debugOpening marker ++ debugStatement marker ++ "\n" ++ debugClosing ++ rest

theorem feed_not_mem_debugStatement (marker : String) : '\n' ∉ (debugStatement marker).toList := by
  have hliteral : '\n' ∉ (literal (marker ++ " DEBUG")).toList := fun hfeed =>
    absurd (isPrinted_literal _ '\n' hfeed) (by decide)
  rw [debugStatement, String.toList_append, String.toList_append, List.mem_append, List.mem_append]
  rintro ((hfeed | hfeed) | hfeed)
  · exact absurd hfeed (by decide)
  · exact hliteral hfeed
  · exact absurd hfeed (by decide)

theorem stepPieces_debug (marker : String) (kde5 : Bool) :
    stepPieces ⟨marker, true, kde5⟩ = stepPieces ⟨marker, false, kde5⟩ := by
  funext step
  cases step <;> rfl

/-- The pieces of a script behind the function that prints debug lines. -/
def piecesAfterDebug (marker : String) (kde5 : Bool) (steps : List Step) : List Piece :=
  [.literal (Journal.head marker .error),
    .code ", message);\n\x7d\n\nfunction output_result(message) \x7b\n    print(",
    .literal (Journal.head marker .result),
    .code ", message);\n\x7d\n\nfunction run() \x7b\n    var window_stack = [];\n"] ++
  steps.flatMap (stepPieces ⟨marker, false, kde5⟩) ++ epilogue ⟨marker, false, kde5⟩

theorem scriptPieces_split (marker : String) (debug kde5 : Bool) (steps : List Step) :
    scriptPieces ⟨marker, debug, kde5⟩ steps =
      [.code "print(", .literal (Journal.head marker .start),
        .code ");\n\nfunction output_debug(message) \x7b\n"] ++
      (debugBody ⟨marker, debug, kde5⟩ ++
        (.code debugClosing :: piecesAfterDebug marker kde5 steps)) := by
  have hsteps : stepPieces ⟨marker, debug, kde5⟩ = stepPieces ⟨marker, false, kde5⟩ := by
    cases debug with
    | false => rfl
    | true => exact stepPieces_debug marker kde5
  rw [scriptPieces, hsteps]
  simp only [prologue, List.append_assoc, List.cons_append, List.nil_append]
  rfl

theorem joinPieces_cons (piece : Piece) (pieces : List Piece) :
    joinPieces (piece :: pieces) = piece.text ++ joinPieces pieces := by
  rw [joinPieces, List.map_cons, String.join_cons]
  rfl

theorem joinPieces_nil : joinPieces [] = "" := rfl

theorem joinPieces_debugOpening (marker : String) :
    joinPieces [.code "print(", .literal (Journal.head marker .start),
      .code ");\n\nfunction output_debug(message) \x7b\n"] = debugOpening marker := by
  have hhead : Journal.head marker .start = marker ++ " START" := by
    rw [Journal.head, String.append_assoc]
    rfl
  simp only [joinPieces_cons, joinPieces_nil, Piece.text, hhead, debugOpening, String.append_assoc,
    String.append_empty]

theorem joinPieces_debugBody (marker : String) (kde5 : Bool) :
    joinPieces (debugBody ⟨marker, true, kde5⟩) = debugStatement marker ++ "\n" := by
  have hhead : Journal.head marker .debug = marker ++ " DEBUG" := by
    rw [Journal.head, String.append_assoc]
    rfl
  have hend : ", message);\n" = ", message);" ++ "\n" := by decide +kernel
  rw [debugBody, if_pos rfl, headLiteral]
  simp only [joinPieces_cons, joinPieces_nil, Piece.text, hhead, hend, debugStatement,
    String.append_assoc, String.append_empty]

theorem addsDebugLine_render (marker : String) (kde5 : Bool) (steps : List Step) :
    AddsDebugLine marker (render ⟨marker, false, kde5⟩ steps)
      (render ⟨marker, true, kde5⟩ steps) := by
  refine ⟨joinPieces (piecesAfterDebug marker kde5 steps), ?_, ?_⟩
  · have hbody : debugBody ⟨marker, false, kde5⟩ = [] := rfl
    rw [render, scriptPieces_split, joinPieces_append, joinPieces_debugOpening, hbody,
      List.nil_append, joinPieces_cons, Piece.text, String.append_assoc]
  · rw [render, scriptPieces_split, joinPieces_append, joinPieces_debugOpening, joinPieces_append,
      joinPieces_debugBody, joinPieces_cons, Piece.text]
    simp only [String.append_assoc]

/-! ## All targets with one marker -/

/-- Whatever a command line is, the four targets with one marker agree on whether it is
accepted, on the error and on the steps. If it is accepted, the script with debug lines is
the script without them and one line more, as the body of the function that prints them. The
script for version 5 has the same literals as the other one, and its code is that code with
every call that lists the windows replaced, one for each search and each action on a window
id. -/
theorem compile_flags (marker : String) (tokens : List String) :
    (∃ error, ∀ debug kde5, compile ⟨marker, debug, kde5⟩ tokens = .error error) ∨
    ∃ (steps : List Step) (text : Bool → Bool → String),
      (∀ debug kde5, compile ⟨marker, debug, kde5⟩ tokens = .ok ⟨steps, text debug kde5⟩) ∧
      '\n' ∉ (debugStatement marker).toList ∧
      (∀ kde5, AddsDebugLine marker (text false kde5) (text true kde5)) ∧
      ∀ debug, ∃ lexemes lexemes',
        scan .code (text debug false).toList = some lexemes ∧
        scan .code (text debug true).toList = some lexemes' ∧
        lexemes' = replaceCode windowCall clientCall lexemes ∧
        lexemes'.filterMap Lexeme.body? = lexemes.filterMap Lexeme.body? ∧
        occurrences windowCall lexemes = steps.countP Step.listsWindows := by
  cases hparse : Command.parse tokens with
  | error error => exact .inl ⟨error, fun _ _ => compile_eq_error_iff.mpr hparse⟩
  | ok commands =>
      refine .inr ⟨stepsAfter false commands,
        fun debug kde5 => render ⟨marker, debug, kde5⟩ (stepsAfter false commands),
        fun debug kde5 => compile_of_parse hparse _, feed_not_mem_debugStatement marker,
        fun kde5 => addsDebugLine_render marker kde5 _, fun debug => ?_⟩
      have hswitched := switched_scriptPieces marker debug (stepsAfter false commands)
      refine ⟨_, _, scan_joinPieces (quoteless_scriptPieces _ _),
        scan_joinPieces (quoteless_scriptPieces _ _), ?_, ?_, ?_⟩
      · exact (hswitched.replaceCode_eq replaceable_windowCall).symm
      · exact hswitched.filterMap_body?_eq
      · exact hswitched.occurrences_eq replaceable_windowCall

/-- A search term and a window id that spell out the calls are left alone. -/
theorem compile_flags_disguised :
    let tokens := ["search", "workspace.windowList()", "windowclose", "workspace.clientList()"]
    ∃ text : Bool → Bool → String,
      (∀ debug kde5, compile ⟨"m", debug, kde5⟩ tokens =
        .ok ⟨[.search "workspace.windowList()" false, .onWindow .close "workspace.clientList()"],
          text debug kde5⟩) ∧
      AddsDebugLine "m" (text false true) (text true true) ∧
      ∃ lexemes, scan .code (text true false).toList = some lexemes ∧
        scan .code (text true true).toList =
          some (replaceCode windowCall clientCall lexemes) ∧
        occurrences windowCall lexemes = 2 := by
  intro tokens
  have hterm : Pattern.fault? "workspace.windowList()" = none := by decide +kernel
  have hparse : Command.parse tokens = .ok [.search "workspace.windowList()",
      .act .close (.window "workspace.clientList()")] :=
    parse_cons (read_search rfl hterm _) (parse_cons rfl parse_nil)
  rcases compile_flags "m" tokens with ⟨error, herror⟩ | ⟨steps, text, hok, -, hdebug, hcalls⟩
  · have hfailed := herror true true
    rw [compile_of_parse hparse] at hfailed
    cases hfailed
  · have hsteps := hok true true
    rw [compile_of_parse hparse, Except.ok.injEq, Compiled.mk.injEq] at hsteps
    obtain ⟨rfl, -⟩ := hsteps
    obtain ⟨lexemes, -, hplain, hfive, rfl, -, hcount⟩ := hcalls true
    exact ⟨text, hok, hdebug true, lexemes, hplain, hfive, hcount⟩

end Script

end WindowScript
