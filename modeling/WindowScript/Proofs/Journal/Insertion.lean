/-
# Lines written by others

Whether a line that does not belong to a run can change what is read of the run.
Escape sequences are removed before the journal is cut into lines, so the question
is whether a sequence reaches across a line feed. A control sequence cannot. A
system command can, in two ways: one that is open before the inserted line may find
its bell in it, and one that the line leaves open may find its bell behind it.

A line that `StandsAlone` is out of reach of both and changes nothing. A line that
changes nothing in any journal holds no bell and starts no system command, and
these are all such lines: every other one hides a result of some run.
-/

import WindowScript.Proofs.Journal.Separation

namespace WindowScript.Journal

open Terminal

/-- A journal of complete lines. -/
def textOfLines (lines : List String) : String := String.join (lines.map (· ++ "\n"))

/-- A line that does not start like the lines of a marker once escape sequences are
removed from it. -/
def Foreign (marker line : String) : Prop :=
  ¬ lineHead hostPrefix marker <+: (stripText line).toList

/-- No system command joins an inserted line with what stands before or after it,
unless it takes in the whole line. -/
structure StandsAlone (before line after : List Char) : Prop where
  closed_before : LeavesOpen before → bell ∉ line
  closed_line : ¬ LeavesOpen before → LeavesOpen line → bell ∉ after

/-! ## Texts of complete lines -/

theorem toList_textOfLines_append (before after : List String) :
    (textOfLines (before ++ after)).toList =
      (textOfLines before).toList ++ (textOfLines after).toList := by
  simp [textOfLines, String.join_append]

theorem toList_textOfLines_cons (line : String) (lines : List String) :
    (textOfLines (line :: lines)).toList =
      line.toList ++ '\n' :: (textOfLines lines).toList := by
  simp [textOfLines, String.join_cons]

theorem written_textOfLines (lines : List String) : Written lines (textOfLines lines) := by
  induction lines with
  | nil => exact .nil
  | cons line lines ih =>
      have htext : textOfLines (line :: lines) =
          line ++ LineEnd.feed.text ++ textOfLines lines := by
        simp [textOfLines, String.join_cons, LineEnd.text]
      rw [htext]
      exact .cons line .feed ih

/-- A text of complete lines is empty or ends in a line feed. -/
theorem textOfLines_eq_nil_or_feed (lines : List String) :
    (textOfLines lines).toList = [] ∨
      ∃ cs, (textOfLines lines).toList = cs ++ ['\n'] := by
  rcases List.eq_nil_or_concat lines with rfl | ⟨lines, line, rfl⟩
  · exact Or.inl rfl
  · refine Or.inr ⟨(textOfLines lines).toList ++ line.toList, ?_⟩
    rw [List.concat_eq_append, toList_textOfLines_append, toList_textOfLines_cons]
    simp [textOfLines]

/-- Complete lines are read by themselves, whatever follows, unless a command that
they leave open is ended there. -/
theorem exists_lines_strip_append (before : List String) :
    ∃ parts, ∀ rest, (LeavesOpen (textOfLines before).toList → bell ∉ rest) →
      Text.lines (strip ((textOfLines before).toList ++ rest)) =
        parts ++ Text.lines (strip rest) := by
  rcases textOfLines_eq_nil_or_feed before with hnil | ⟨cs, hcs⟩
  · refine ⟨[], fun rest _ => ?_⟩
    rw [hnil]
    rfl
  · refine ⟨(Text.splitAtFeeds (strip cs)).map Text.dropReturn, fun rest hclosed => ?_⟩
    have hopen : LeavesOpen cs → bell ∉ rest := by
      intro hopen
      apply hclosed
      rw [hcs]
      exact hopen.append (by decide)
    rw [hcs, List.append_assoc, List.singleton_append, strip_append_feed hopen,
      Text.lines_append_feed]

/-! ## Lines that stand alone -/

/-- A foreign line that no sequence joins with the rest is one line that is not
read. -/
theorem linesOf_insert_of_closed {marker line : String} {before after : List String}
    (hline : '\n' ∉ line.toList) (hforeign : Foreign marker line)
    (hbefore : LeavesOpen (textOfLines before).toList →
      bell ∉ line.toList ∧ bell ∉ (textOfLines after).toList)
    (hafter : LeavesOpen line.toList → bell ∉ (textOfLines after).toList) :
    linesOf hostPrefix marker (textOfLines (before ++ line :: after)) =
      linesOf hostPrefix marker (textOfLines (before ++ after)) := by
  obtain ⟨parts, hparts⟩ := exists_lines_strip_append before
  have hstrip : '\n' ∉ strip line.toList := fun hmem =>
    hline ((strip_sublist line.toList).subset hmem)
  have hwith : Text.lines (strip (textOfLines (before ++ line :: after)).toList) =
      parts ++ Text.dropReturn (strip line.toList) ::
        Text.lines (strip (textOfLines after).toList) := by
    rw [toList_textOfLines_append, toList_textOfLines_cons, hparts, strip_append_feed hafter,
      Text.lines_cons_feed hstrip]
    intro hopen
    obtain ⟨hbell, hbells⟩ := hbefore hopen
    simp only [List.mem_append, List.mem_cons, not_or]
    exact ⟨hbell, by decide, hbells⟩
  have hwithout : Text.lines (strip (textOfLines (before ++ after)).toList) =
      parts ++ Text.lines (strip (textOfLines after).toList) := by
    rw [toList_textOfLines_append, hparts _ fun hopen => (hbefore hopen).2]
  have hnone : readLine? hostPrefix marker
      (String.ofList (Text.dropReturn (strip line.toList))) = none := by
    apply readLine?_dropReturn_of_not_head
    simpa [Foreign, stripText] using hforeign
  simp only [linesOf, hwith, hwithout, List.filterMap_append, List.filterMap_cons, hnone]

/-- A command that is open before a line without a bell takes in the whole line. -/
theorem strip_insert_of_leavesOpen {line : String} {before after : List String}
    (hopen : LeavesOpen (textOfLines before).toList) (hline : bell ∉ line.toList)
    (hafter : bell ∈ (textOfLines after).toList) :
    strip (textOfLines (before ++ line :: after)).toList =
      strip (textOfLines (before ++ after)).toList := by
  obtain ⟨front, -, hfront⟩ := hopen.exists_front
  obtain ⟨body, rest, hbells, hbody⟩ := List.eq_append_cons_of_mem hafter
  have hlong : bell ∉ line.toList ++ '\n' :: body := by
    simp only [List.mem_append, List.mem_cons, not_or]
    exact ⟨hline, by decide, hbody⟩
  have hwith := hfront (line.toList ++ '\n' :: body) rest hlong
  have hwithout := hfront body rest hbody
  rw [toList_textOfLines_append, toList_textOfLines_append, toList_textOfLines_cons, hbells,
    hwithout, ← hwith]
  simp

theorem linesOf_insert {marker line : String} {before after : List String}
    (hline : '\n' ∉ line.toList) (hforeign : Foreign marker line)
    (halone : StandsAlone (textOfLines before).toList line.toList (textOfLines after).toList) :
    linesOf hostPrefix marker (textOfLines (before ++ line :: after)) =
      linesOf hostPrefix marker (textOfLines (before ++ after)) := by
  by_cases hopen : LeavesOpen (textOfLines before).toList
  · have hbell := halone.closed_before hopen
    by_cases hafter : bell ∈ (textOfLines after).toList
    · rw [linesOf, linesOf, strip_insert_of_leavesOpen hopen hbell hafter]
    · exact linesOf_insert_of_closed hline hforeign (fun _ => ⟨hbell, hafter⟩) fun _ => hafter
  · exact linesOf_insert_of_closed hline hforeign (fun h => absurd h hopen)
      (halone.closed_line hopen)

/-! ## Lines that do not -/

/-- A marker that is longer than a line. -/
def longMarker (line : String) : String :=
  String.ofList (List.replicate line.toList.length 'x')

theorem mem_longMarker {line : String} {c : Char} (hc : c ∈ (longMarker line).toList) :
    c = 'x' := by
  rw [longMarker, String.toList_ofList] at hc
  exact List.eq_of_mem_replicate hc

theorem not_head_longMarker {line : String} {cs : List Char} (hcs : cs.Sublist line.toList) :
    ¬ lineHead hostPrefix (longMarker line) <+: cs := by
  intro hhead
  have hlength := hhead.length_le.trans hcs.length_le
  simp [lineHead, longMarker, hostPrefix] at hlength
  omega

theorem foreign_longMarker (line : String) : Foreign (longMarker line) line := by
  rw [Foreign, stripText, String.toList_ofList]
  exact not_head_longMarker (strip_sublist line.toList)

/-- A journal of which stripping leaves one line. -/
theorem linesOf_of_strip_eq {marker journal : String} {line : List Char}
    (hstrip : strip journal.toList = line ++ ['\n']) (hline : '\n' ∉ line) :
    linesOf hostPrefix marker journal =
      (readLine? hostPrefix marker (String.ofList (Text.dropReturn line))).toList := by
  have hnil := readLine?_nil hostPrefix marker
  have hlast : Text.lines [] = [[]] := rfl
  rw [linesOf, hstrip, Text.lines_cons_feed hline, hlast]
  cases hread : readLine? hostPrefix marker (String.ofList (Text.dropReturn line)) with
  | none => simp [hread, hnil]
  | some found => simp [hread, hnil]

/-- Emissions that stripping leaves alone are all read. -/
theorem linesOf_emissions {marker : String} {emissions : List Emission}
    (hstrip : strip (textOfLines (emissions.map (Emission.line marker))).toList =
      (textOfLines (emissions.map (Emission.line marker))).toList)
    (hfeed : ∀ emission ∈ emissions, '\n' ∉ (emission.line marker).toList)
    (hlast : ∀ emission ∈ emissions, ∀ payload ∈ emission.payload,
      payload.toList.getLast? ≠ some '\r') :
    linesOf hostPrefix marker (textOfLines (emissions.map (Emission.line marker))) =
      emissions.map fun emission => ⟨emission.channel, emission.payload.getD ""⟩ := by
  rw [linesOf, hstrip, (written_textOfLines _).filterMap_lines, ← filterMap_readLine?_line marker]
  · simp
  · simpa using hfeed
  · exact readLine?_nil hostPrefix marker
  · intro line hline
    obtain ⟨emission, hemission, rfl⟩ := List.mem_map.mp hline
    rw [dropReturn_line marker (hlast emission hemission)]

theorem length_payloads_le (channel : Channel) (lines : List Line) :
    (payloads channel lines).length ≤ lines.length := by
  rw [payloads, List.length_map]
  exact List.length_filter_le _ _

/-- The line of an empty result under the long marker. -/
def emptyResult (line : String) : List Char :=
  (Emission.line (longMarker line) ⟨.result, none⟩).toList

theorem not_mem_emptyResult (line : String) {c : Char} (hc : c ∈ ['\n', esc, bell]) :
    c ∉ emptyResult line := by
  have hx : c ∉ (longMarker line).toList := by
    intro hmem
    rw [mem_longMarker hmem] at hc
    revert hc
    decide
  have hfixed : c ∉ (hostPrefix ++ " " ++ Channel.result.tag).toList := by
    simp only [List.mem_cons, List.not_mem_nil, or_false] at hc
    rcases hc with rfl | rfl | rfl <;> decide
  simpa [emptyResult, Emission.line, encode, head, hx] using hfixed

theorem toList_result (line payload : String) :
    (Emission.line (longMarker line) ⟨.result, some payload⟩).toList =
      emptyResult line ++ ' ' :: payload.toList := by
  simp [emptyResult, Emission.line, encode]

/-- Two results, the first of which starts a system command. -/
def openResults : List Emission := [⟨.result, some "\x1b]"⟩, ⟨.result, none⟩]

theorem toList_openResults (line : String) :
    (textOfLines (openResults.map (Emission.line (longMarker line)))).toList =
      (emptyResult line ++ [' ']) ++ esc :: ']' :: '\n' :: (emptyResult line ++ ['\n']) := by
  simp [openResults, emptyResult, textOfLines, Emission.line, encode, esc]

theorem linesOf_openResults (line : String) :
    linesOf hostPrefix (longMarker line)
        (textOfLines (openResults.map (Emission.line (longMarker line)))) =
      [⟨.result, "\x1b]"⟩, ⟨.result, ""⟩] := by
  have hesc : esc ∉ emptyResult line := not_mem_emptyResult line (by decide)
  have hbell : bell ∉ emptyResult line := not_mem_emptyResult line (by decide)
  have hfeed : '\n' ∉ emptyResult line := not_mem_emptyResult line (by decide)
  have hcommand : afterSequence? (']' :: '\n' :: (emptyResult line ++ ['\n'])) = none := by
    rw [afterSequence?_system_eq_none_iff]
    simpa [bell] using hbell
  rw [linesOf_emissions]
  · rfl
  · rw [toList_openResults, strip_append_of_not_mem (by simpa [esc] using hesc),
      strip_esc hcommand, strip_of_not_mem (by simpa [esc] using hesc)]
  · intro emission hemission
    simp only [openResults, List.mem_cons, List.not_mem_nil, or_false] at hemission
    rcases hemission with rfl | rfl
    · rw [toList_result]
      simp [hfeed]
    · exact hfeed
  · simp [openResults]

/-- A bell ends the command that the first of two results starts. The line feeds
between them are lost, and so is the second result. -/
theorem strip_openResults_bell {line : String} {body rest : List Char} (hbody : bell ∉ body)
    (hline : line.toList = body ++ bell :: rest) :
    strip (textOfLines (openResults.map (Emission.line (longMarker line)) ++ [line])).toList =
      (emptyResult line ++ [' '] ++ strip rest) ++ ['\n'] := by
  have hesc : esc ∉ emptyResult line := not_mem_emptyResult line (by decide)
  have hbell : bell ∉ emptyResult line := not_mem_emptyResult line (by decide)
  have hcommand : bell ∉ '\n' :: (emptyResult line ++ ['\n']) ++ body := by
    simp only [List.mem_append, List.mem_cons, List.not_mem_nil, or_false, not_or]
    exact ⟨⟨by decide, hbell, by decide⟩, hbody⟩
  have htext :
      (textOfLines (openResults.map (Emission.line (longMarker line)) ++ [line])).toList =
        (emptyResult line ++ [' ']) ++ esc ::
          (']' :: ('\n' :: (emptyResult line ++ ['\n']) ++ body ++ [bell]) ++
            (rest ++ ['\n'])) := by
    rw [toList_textOfLines_append, toList_textOfLines_cons, toList_openResults, hline]
    simp [textOfLines]
  have hrest : strip (rest ++ ['\n']) = strip rest ++ ['\n'] := by
    rw [strip_append_feed fun _ => List.not_mem_nil, strip_nil]
  rw [htext, strip_append_of_not_mem (by simpa [esc] using hesc),
    strip_sequence (.system hcommand), hrest, ← List.append_assoc]

theorem exists_hidden_of_bell_mem {line : String} (hline : '\n' ∉ line.toList)
    (hbell : bell ∈ line.toList) :
    ∃ before, demultiplex (textOfLines (before ++ [line])) (longMarker line) ≠
      demultiplex (textOfLines before) (longMarker line) := by
  obtain ⟨body, rest, hcut, hbody⟩ := List.eq_append_cons_of_mem hbell
  refine ⟨openResults.map (Emission.line (longMarker line)), fun hsame => ?_⟩
  have hfeed : '\n' ∉ emptyResult line ++ [' '] ++ strip rest := by
    have hresult : '\n' ∉ emptyResult line := not_mem_emptyResult line (by decide)
    have hrest : '\n' ∉ strip rest := fun hmem =>
      hline (hcut ▸ by simp [(strip_sublist rest).subset hmem])
    simp [hresult, hrest]
  have hwith : (linesOf hostPrefix (longMarker line)
      (textOfLines (openResults.map (Emission.line (longMarker line)) ++ [line]))).length ≤ 1 := by
    rw [linesOf_of_strip_eq (strip_openResults_bell hbody hcut) hfeed]
    exact Option.length_toList_le
  have hresults := congrArg (fun output => output.results.length) hsame
  simp only [demultiplex, demultiplexFrom, Output.ofLines, linesOf_openResults] at hresults
  have hone := (length_payloads_le .result _).trans hwith
  rw [hresults] at hone
  revert hone
  decide

/-- A result that holds a bell. -/
def bellResult : List Emission := [⟨.result, some "\x07"⟩]

theorem toList_bellResult (line : String) :
    (textOfLines (bellResult.map (Emission.line (longMarker line)))).toList =
      (emptyResult line ++ [' ']) ++ bell :: ['\n'] := by
  simp [bellResult, emptyResult, textOfLines, Emission.line, encode, bell]

theorem linesOf_bellResult (line : String) :
    linesOf hostPrefix (longMarker line)
        (textOfLines (bellResult.map (Emission.line (longMarker line)))) =
      [⟨.result, "\x07"⟩] := by
  have hesc : esc ∉ emptyResult line := not_mem_emptyResult line (by decide)
  have hfeed : '\n' ∉ emptyResult line := not_mem_emptyResult line (by decide)
  rw [linesOf_emissions]
  · rfl
  · rw [toList_bellResult, strip_of_not_mem]
    simpa [esc, bell] using hesc
  · intro emission hemission
    rw [List.mem_singleton.mp hemission, toList_result]
    simp [hfeed]
  · simp [bellResult]

/-- A command that a line leaves open takes in the result behind it up to the bell,
and what is left of the line is too short for a line of the marker. -/
theorem exists_hidden_of_leavesOpen {line : String} (hline : '\n' ∉ line.toList)
    (hopen : LeavesOpen line.toList) :
    ∃ after, demultiplex (textOfLines (line :: after)) (longMarker line) ≠
      demultiplex (textOfLines after) (longMarker line) := by
  refine ⟨bellResult.map (Emission.line (longMarker line)), fun hsame => ?_⟩
  obtain ⟨front, hfront, hstrip⟩ := hopen.exists_front
  have hbody : bell ∉ '\n' :: (emptyResult line ++ [' ']) := by
    have hbell : bell ∉ emptyResult line := not_mem_emptyResult line (by decide)
    simpa [bell] using hbell
  have htext :
      strip (textOfLines (line :: bellResult.map (Emission.line (longMarker line)))).toList =
        front ++ ['\n'] := by
    have hfeed : strip ['\n'] = ['\n'] := strip_of_not_mem (by decide)
    rw [toList_textOfLines_cons, toList_bellResult, ← hfeed, ← hstrip _ _ hbody, hfeed,
      List.cons_append]
  have hnone : linesOf hostPrefix (longMarker line)
      (textOfLines (line :: bellResult.map (Emission.line (longMarker line)))) = [] := by
    rw [linesOf_of_strip_eq htext fun hmem => hline (hfront.subset hmem),
      readLine?_dropReturn_of_not_head (not_head_longMarker hfront), Option.toList_none]
  have hresults := congrArg Output.results hsame
  simp only [demultiplex, demultiplexFrom, Output.ofLines, hnone, linesOf_bellResult] at hresults
  revert hresults
  decide

/-! ## The exact condition -/

/-- Without a bell, a command is left open wherever it starts. -/
theorem leavesOpen_iff_of_bell_not_mem {cs : List Char} (hbell : bell ∉ cs) :
    LeavesOpen cs ↔ [esc, ']'] <:+: cs := by
  constructor
  · rintro ⟨command, ⟨before, rfl⟩, -⟩
    exact ⟨before, command, by simp⟩
  · rintro ⟨before, command, rfl⟩
    exact ⟨command, ⟨before, by simp⟩, fun hmem => hbell (by simp [hmem])⟩

/-- A foreign line that stands alone changes nothing that is read of any run, and
the lines that change nothing in any journal are those that hold no bell and start
no system command. -/
theorem demultiplex_insert {line : String} (hline : '\n' ∉ line.toList) :
    (∀ marker before after, Foreign marker line →
      StandsAlone (textOfLines before).toList line.toList (textOfLines after).toList →
        demultiplex (textOfLines (before ++ line :: after)) marker =
          demultiplex (textOfLines (before ++ after)) marker) ∧
    ((∀ marker before after, Foreign marker line →
        demultiplex (textOfLines (before ++ line :: after)) marker =
          demultiplex (textOfLines (before ++ after)) marker) ↔
      bell ∉ line.toList ∧ ¬ [esc, ']'] <:+: line.toList) := by
  have halone (marker : String) (before after : List String) (hforeign : Foreign marker line)
      (halone : StandsAlone (textOfLines before).toList line.toList (textOfLines after).toList) :
      demultiplex (textOfLines (before ++ line :: after)) marker =
        demultiplex (textOfLines (before ++ after)) marker := by
    rw [demultiplex, demultiplexFrom, demultiplex, demultiplexFrom,
      linesOf_insert hline hforeign halone]
  refine ⟨halone, ?_⟩
  constructor
  · intro hsame
    have hbell : bell ∉ line.toList := by
      intro hbell
      obtain ⟨before, hhidden⟩ := exists_hidden_of_bell_mem hline hbell
      have hbefore := hsame _ before [] (foreign_longMarker line)
      rw [List.append_nil] at hbefore
      exact hhidden hbefore
    refine ⟨hbell, fun hstart => ?_⟩
    obtain ⟨after, hhidden⟩ :=
      exists_hidden_of_leavesOpen hline ((leavesOpen_iff_of_bell_not_mem hbell).mpr hstart)
    exact hhidden (hsame _ [] after (foreign_longMarker line))
  · rintro ⟨hbell, hstart⟩ marker before after hforeign
    have hclosed : ¬ LeavesOpen line.toList := by
      rwa [leavesOpen_iff_of_bell_not_mem hbell]
    exact halone marker before after hforeign
      ⟨fun _ => hbell, fun _ hopen => absurd hopen hclosed⟩

/-- A line that sets a title and ends its command stands alone. -/
theorem demultiplex_insert_title :
    demultiplex (textOfLines ["js: m RESULT a", "\x1b]0;title\x07kwin", "js: m RESULT b"]) "m" =
      demultiplex (textOfLines ["js: m RESULT a", "js: m RESULT b"]) "m" := by
  have hforeign : Foreign "m" "\x1b]0;title\x07kwin" := by
    unfold Foreign
    decide +kernel
  have hbefore : ¬ LeavesOpen (textOfLines ["js: m RESULT a"]).toList := fun hopen =>
    absurd hopen.esc_mem (by decide)
  have hline : ¬ LeavesOpen "\x1b]0;title\x07kwin".toList := by
    intro hopen
    have hrest := (leavesOpen_append_bell "\x1b]0;title".toList "kwin".toList).mp hopen
    exact absurd hrest.esc_mem (by decide)
  exact (demultiplex_insert (by decide)).1 "m" ["js: m RESULT a"] ["js: m RESULT b"] hforeign
    ⟨fun hopen => absurd hopen hbefore, fun _ hopen => absurd hopen hline⟩

/-- A foreign line can hide a result: the command that it leaves open takes in the
next line, up to the bell in the line after that. -/
theorem demultiplex_insert_open :
    Foreign "m" "\x1b]" ∧
      demultiplex (textOfLines ["js: m RESULT a", "\x07"]) "m" =
        ⟨false, false, ["a"], [], []⟩ ∧
      demultiplex (textOfLines ["\x1b]", "js: m RESULT a", "\x07"]) "m" =
        ⟨false, false, [], [], []⟩ := by
  refine ⟨?_, by decide +kernel, by decide +kernel⟩
  unfold Foreign
  decide +kernel

end WindowScript.Journal
