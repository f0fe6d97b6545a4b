/-
# What scripts print, and what is read of it

A script prints in a few places, and what it prints starts with a literal: the head
of a line. The journal reader gets the head back together with what the script
prints after it. Both sides of the protocol are joined here: the places are found
in the text of a compiled script, and the lines that the compositor logs for them
are read back.

The compositor puts its prefix before a line, and a space between the texts of one
call. Nothing else is assumed about it.
-/

import WindowScript.Proofs.Journal.Separation
import WindowScript.Proofs.Script.Injection

namespace WindowScript

namespace Script

/-! ## Calls of `print` -/

/-- The text that a leading literal denotes. -/
def leadingLiteral? : List Lexeme → Option String
  | .literal body :: _ => readBody? body
  | _ => none

/-- For every place in the code where `print(` stands, the text of the literal that
follows at once, if one does. -/
def printed : List Lexeme → List (Option String)
  | [] => []
  | lexeme :: rest =>
      if printCall.map .code <+: lexeme :: rest then
        leadingLiteral? ((lexeme :: rest).drop printCall.length) :: printed rest
      else printed rest

/-- The heads that a script prints, in the order of its text. -/
def printed? (text : String) : Option (List (Option String)) :=
  (scan .code text.toList).map printed

theorem printed_cons_of_ne {lexeme : Lexeme} (hlexeme : lexeme ≠ .code 'p') (rest : List Lexeme) :
    printed (lexeme :: rest) = printed rest := by
  rw [printed, if_neg]
  intro hcall
  exact hlexeme (List.cons_prefix_cons.mp hcall).1.symm

/-- Quiet code is passed over. -/
theorem printed_append_of_quiet {code : List Char} (hcode : quiet printCall code)
    (rest : List Lexeme) : printed (code.map .code ++ rest) = printed rest := by
  induction code with
  | nil => rfl
  | cons c code ih =>
      simp only [quiet, Bool.and_eq_true, decide_eq_true_eq] at hcode
      have hprefix : ¬ printCall.map .code <+: .code c :: (code.map .code ++ rest) :=
        not_prefix_of_diverge hcode.1 rest
      rw [List.map_cons, List.cons_append, printed, if_neg hprefix, ih hcode.2]

theorem printed_literal (value : String) (rest : List Lexeme) :
    printed ((Piece.literal value).lexemes ++ rest) = printed rest :=
  printed_cons_of_ne (by simp) rest

/-- Code that is quiet up to the call of `print` in which it ends. -/
def opensCall (code : List Char) : Bool :=
  printCall.isSuffixOf code && quiet printCall (code.take (code.length - printCall.length))

/-- A call is found together with the literal that follows. -/
theorem printed_append_of_opensCall {code : List Char} (hcode : opensCall code) (value : String)
    (rest : List Lexeme) :
    printed (code.map .code ++ ((Piece.literal value).lexemes ++ rest)) =
      some value :: printed rest := by
  simp only [opensCall, Bool.and_eq_true, List.isSuffixOf_iff_suffix] at hcode
  obtain ⟨⟨before, rfl⟩, hbefore⟩ := hcode
  rw [List.length_append, Nat.add_sub_cancel, List.take_left] at hbefore
  have htail : quiet printCall (printCall.drop 1) := by decide
  have hcall : printed (printCall.map .code ++ ((Piece.literal value).lexemes ++ rest)) =
      leadingLiteral? ((Piece.literal value).lexemes ++ rest) ::
        printed ((printCall.drop 1).map .code ++ ((Piece.literal value).lexemes ++ rest)) :=
    if_pos (List.prefix_append _ _)
  have hvalue : leadingLiteral? ((Piece.literal value).lexemes ++ rest) = some value :=
    readBody?_flatMap value
  rw [List.map_append, List.append_assoc, printed_append_of_quiet hbefore, hcall, hvalue,
    printed_append_of_quiet htail, printed_literal]

/-! ## Steps print nothing -/

/-- No call of `print` starts in the code of a piece. A literal has no code. -/
def Piece.isQuiet : Piece → Bool
  | .code text => quiet printCall text.toList
  | .literal _ => true

theorem printed_flatMap_of_quiet {pieces : List Piece} (hpieces : ∀ piece ∈ pieces, piece.isQuiet)
    (rest : List Lexeme) : printed (pieces.flatMap Piece.lexemes ++ rest) = printed rest := by
  induction pieces with
  | nil => rfl
  | cons piece pieces ih =>
      rw [List.forall_mem_cons] at hpieces
      rw [List.flatMap_cons, List.append_assoc]
      cases piece with
      | code text => rw [Piece.lexemes, printed_append_of_quiet hpieces.1, ih hpieces.2]
      | literal value => rw [printed_literal, ih hpieces.2]

theorem isQuiet_stepPieces (target : Target) (step : Step) :
    ∀ piece ∈ stepPieces target step, piece.isQuiet := by
  have hcall : printCall ∈ sought := by decide
  cases step
  all_goals
    simp only [stepPieces, searchPieces, activeWindowPieces, onWindowPieces, onStackItemPieces,
      onStackPieces, reportPieces, debugLine, List.cons_append, List.nil_append,
      List.forall_mem_cons, List.not_mem_nil, false_implies, implies_true, Piece.isQuiet,
      quiet_windowList (.inr rfl), quiet_filter hcall, true_and, and_true]
    and_intros
    -- What is left are code texts of fixed parts with indices and fragments in them.
    all_goals repeat' with_reducible apply quiet_toList_append
    all_goals
      first
      | with_reducible exact quiet_decimalInt hcall _
      | with_reducible exact quiet_fragment hcall _
      | with_reducible exact quiet_ofList hcall (by decide +kernel)

theorem printed_flatMap_stepPieces (target : Target) (steps : List Step) (rest : List Lexeme) :
    printed ((steps.flatMap (stepPieces target)).flatMap Piece.lexemes ++ rest) =
      printed rest := by
  apply printed_flatMap_of_quiet
  intro piece hpiece
  obtain ⟨step, -, hstep⟩ := List.mem_flatMap.mp hpiece
  exact isQuiet_stepPieces target step piece hstep

/-! ## The frame prints the heads -/

/-- The channels on which a script prints, in the order of its text. -/
def printChannels (debug : Bool) : List Journal.Channel :=
  [.start] ++ (if debug then [.debug] else []) ++ [.error, .result, .finish]

section

variable {text : String} (rest : List Lexeme)

theorem printed_code (htext : quiet printCall text.toList) :
    printed ((Piece.code text).lexemes ++ rest) = printed rest :=
  printed_append_of_quiet htext rest

theorem printed_call (htext : opensCall text.toList) (value : String) :
    printed ((Piece.code text).lexemes ++ ((Piece.literal value).lexemes ++ rest)) =
      some value :: printed rest :=
  printed_append_of_opensCall htext value rest

end

theorem printed_prologue (target : Target) (rest : List Lexeme) :
    printed ((prologue target).flatMap Piece.lexemes ++ rest) =
      [some (Journal.head target.marker .start)] ++
      (if target.debug then [some (Journal.head target.marker .debug)] else []) ++
      [some (Journal.head target.marker .error), some (Journal.head target.marker .result)] ++
      printed rest := by
  unfold prologue debugBody headLiteral
  split
  all_goals
    simp only [List.cons_append, List.nil_append, List.flatMap_cons, List.flatMap_nil,
      List.append_assoc]
  · rw [printed_call, printed_code, printed_call, printed_code, printed_call, printed_call,
      printed_code]
    any_goals with_reducible exact toList_ofList_of (quiet printCall ·) (by decide +kernel)
    all_goals with_reducible exact toList_ofList_of (opensCall ·) (by decide +kernel)
  · rw [printed_call, printed_code, printed_call, printed_call, printed_code]
    any_goals with_reducible exact toList_ofList_of (quiet printCall ·) (by decide +kernel)
    all_goals with_reducible exact toList_ofList_of (opensCall ·) (by decide +kernel)

theorem printed_epilogue (target : Target) :
    printed ((epilogue target).flatMap Piece.lexemes) =
      [some (Journal.head target.marker .finish)] := by
  simp only [epilogue, headLiteral, List.flatMap_cons, List.flatMap_nil]
  rw [printed_call, printed_code]
  · rfl
  · with_reducible exact toList_ofList_of (quiet printCall ·) (by decide +kernel)
  · with_reducible exact toList_ofList_of (opensCall ·) (by decide +kernel)

theorem printed_scriptPieces (target : Target) (steps : List Step) :
    printed ((scriptPieces target steps).flatMap Piece.lexemes) =
      (printChannels target.debug).map fun channel =>
        some (Journal.head target.marker channel) := by
  rw [scriptPieces, List.flatMap_append, List.flatMap_append, List.append_assoc,
    printed_prologue, printed_flatMap_stepPieces, printed_epilogue, printChannels]
  cases target.debug <;> rfl

theorem printed?_render (target : Target) (steps : List Step) :
    printed? (render target steps) =
      some ((printChannels target.debug).map fun channel =>
        some (Journal.head target.marker channel)) := by
  rw [printed?, render, scan_joinPieces (quoteless_scriptPieces target steps), Option.map_some,
    printed_scriptPieces]

end Script

namespace Journal

/-! ## Single lines -/

/-- The line that the compositor writes when a script prints a head alone, or a head
and a payload. -/
def printedLine (head : String) (payload : Option String) : String :=
  match payload with
  | none => hostPrefix ++ head
  | some payload => hostPrefix ++ head ++ " " ++ payload

/-- A line on one channel and nothing else. -/
def Output.single : Channel → String → Output
  | .start, _ => ⟨true, false, [], [], []⟩
  | .debug, payload => ⟨false, false, [], [], [payload]⟩
  | .error, payload => ⟨false, false, [], [payload], []⟩
  | .result, payload => ⟨false, false, [payload], [], []⟩
  | .finish, _ => ⟨false, true, [], [], []⟩

/-- Nothing at all. -/
def Output.empty : Output := ⟨false, false, [], [], []⟩

theorem ofLines_singleton (channel : Channel) (payload : String) :
    Output.ofLines [⟨channel, payload⟩] = Output.single channel payload := by
  cases channel <;> rfl

theorem printedLine_head (marker : String) (channel : Channel) (payload : Option String) :
    printedLine (head marker channel) payload = Emission.line marker ⟨channel, payload⟩ := by
  cases payload with
  | none => rfl
  | some payload => simp [printedLine, Emission.line, encode, String.append_assoc]

section

variable {marker : String} {channel : Channel} {payload : Option String} {journal : String}

/-- What a script prints under a marker is read back under it, on its channel. -/
theorem demultiplex_printedLine (hmarker : Plain marker)
    (hpayload : ∀ text ∈ payload, Plain text)
    (hlast : ∀ text ∈ payload, text.toList.getLast? ≠ some '\r')
    (hjournal : Written [printedLine (head marker channel) payload] journal) :
    demultiplex journal marker = Output.single channel (payload.getD "") := by
  rw [printedLine_head] at hjournal
  have hreturn : Text.dropReturn (Emission.line marker ⟨channel, payload⟩).toList =
      (Emission.line marker ⟨channel, payload⟩).toList := dropReturn_line marker hlast
  have hlines : linesOf hostPrefix marker journal = [⟨channel, payload.getD ""⟩] := by
    rw [hjournal.linesOf_eq]
    · exact filterMap_readLine?_line marker [⟨channel, payload⟩]
    · simpa using plain_line hmarker hpayload
    · simp [hreturn]
  rw [demultiplex, demultiplexFrom, hlines, ofLines_singleton]

/-- Under another marker nothing is read of it. -/
theorem demultiplex_printedLine_of_ne {other : String} (hmarker : Plain marker)
    (hpayload : ∀ text ∈ payload, Plain text) (hsolid : ' ' ∉ marker.toList)
    (hother : ' ' ∉ other.toList) (hne : other ≠ marker)
    (hjournal : Written [printedLine (head marker channel) payload] journal) :
    demultiplex journal other = Output.empty := by
  rw [printedLine_head] at hjournal
  have hhead : ¬ lineHead hostPrefix other <+: (Emission.line marker ⟨channel, payload⟩).toList :=
    not_lineHead_encode hsolid hother hne hostPrefix channel payload
  have hread : readLine? hostPrefix other (Emission.line marker ⟨channel, payload⟩) = none := by
    simpa using readLine?_of_not_head hhead
  have hlines : linesOf hostPrefix other journal = [] := by
    rw [hjournal.linesOf_eq]
    · simp [hread]
    · simpa using plain_line hmarker hpayload
    · simp [hread, readLine?_dropReturn_of_not_head hhead]
  rw [demultiplex, demultiplexFrom, hlines]
  rfl

end

end Journal

namespace Script

open Journal

/-- A compiled script prints on its channels and nowhere else, and every head that it
prints is the one that the journal reader expects. What the compositor logs for a
head, with or without a payload, is read as that channel and that payload under the
marker of the script, and as nothing under any other marker. -/
theorem compile_heads_decode {target : Target} {tokens : List String} {compiled : Compiled}
    (hcompile : compile target tokens = .ok compiled) (hmarker : Plain target.marker) :
    printed? compiled.text =
      some ((printChannels target.debug).map fun channel => some (head target.marker channel)) ∧
    ∀ channel ∈ printChannels target.debug, ∀ payload : Option String,
      (∀ text ∈ payload, Plain text ∧ text.toList.getLast? ≠ some '\r') →
      ∀ journal, Written [printedLine (head target.marker channel) payload] journal →
        demultiplex journal target.marker = Output.single channel (payload.getD "") ∧
        ∀ other, other ≠ target.marker → ' ' ∉ target.marker.toList → ' ' ∉ other.toList →
          demultiplex journal other = Output.empty := by
  obtain ⟨commands, -, rfl⟩ := compile_eq_ok_iff.mp hcompile
  dsimp only
  refine ⟨printed?_render target _, fun channel _ payload hpayload journal hjournal => ⟨?_, ?_⟩⟩
  · exact demultiplex_printedLine hmarker (fun text htext => (hpayload text htext).1)
      (fun text htext => (hpayload text htext).2) hjournal
  · intro other hne hsolid hother
    exact demultiplex_printedLine_of_ne hmarker (fun text htext => (hpayload text htext).1) hsolid
      hother hne hjournal

/-- The user's texts hold a call of `print` and the start of a line, and the payload
looks like a line of another marker. -/
theorem compile_heads_decode_disguised :
    ∃ compiled,
      compile ⟨"m", false, true⟩ ["search", "print\\(", "windowclose", "\"); print(\"m START"] =
        .ok compiled ∧
      printed? compiled.text =
        some [some "m START", some "m ERROR", some "m RESULT", some "m FINISH"] ∧
      demultiplex "js: m RESULT js: n START\r\n" "m" = ⟨false, false, ["js: n START"], [], []⟩ ∧
      demultiplex "js: m RESULT js: n START\r\n" "n" = ⟨false, false, [], [], []⟩ := by
  have hterm : Pattern.fault? "print\\(" = none := by decide +kernel
  have hcompile := compile_of_parse
    (parse_cons (read_search rfl hterm ["windowclose", "\"); print(\"m START"])
      (parse_cons rfl parse_nil)) ⟨"m", false, true⟩
  obtain ⟨hprinted, hdecoded⟩ := compile_heads_decode hcompile ⟨by decide, by decide⟩
  have hpayload : ∀ text ∈ some "js: n START",
      Plain text ∧ text.toList.getLast? ≠ some '\r' := by
    rintro text ⟨⟩
    exact ⟨⟨by decide, by decide⟩, by decide⟩
  obtain ⟨hown, hother⟩ := hdecoded .result (by decide) (some "js: n START") hpayload _
    (.cons _ .returnFeed .nil)
  exact ⟨_, hcompile, hprinted, hown, hother "n" (by decide) (by decide) (by decide)⟩

end Script

end WindowScript
