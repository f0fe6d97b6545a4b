/-
# Runs that share a journal

Several runs print to one journal at the same time, and other programs write to
it too. The journal holds the lines of all of them in some order that keeps the
order of each run, and ends every line in either of two ways. Demultiplexing by
the marker of a run gives back what this run printed, whatever the others did.

The order of the journal is an `Interleaving` of sources: the lines of each run,
and the chatter of everybody else. Nothing is assumed about the schedule. What is
assumed of a run is part of the `Run`: its marker is one word, and what it prints
stays on its line and holds no escape character.
-/

import Mathlib.Data.List.Basic
import Mathlib.Logic.Function.Basic
import WindowScript.Proofs.Journal.Marker
import WindowScript.Proofs.Terminal.Stripping

namespace WindowScript.Journal

/-! ## Interleavings -/

/-- One element at a time is taken from the front of some source, until every
source is used up. -/
inductive Interleaving {ι α : Type} [DecidableEq ι] : (ι → List α) → List α → Prop
  | done {sources : ι → List α} (hdone : ∀ i, sources i = []) : Interleaving sources []
  | next {sources : ι → List α} (i : ι) {x : α} {rest merged : List α}
      (hfront : sources i = x :: rest)
      (hrest : Interleaving (Function.update sources i rest) merged) :
      Interleaving sources (x :: merged)

namespace Interleaving

variable {ι α β : Type} [DecidableEq ι] {sources : ι → List α} {merged : List α}

theorem exists_source (hmerged : Interleaving sources merged) :
    ∀ x ∈ merged, ∃ i, x ∈ sources i := by
  induction hmerged with
  | done => simp
  | @next sources i x rest merged hfront _ ih =>
      intro y hy
      rcases List.mem_cons.mp hy with rfl | hy
      · exact ⟨i, hfront ▸ List.mem_cons_self⟩
      · obtain ⟨j, hj⟩ := ih y hy
        by_cases hji : j = i
        · subst hji
          rw [Function.update_self] at hj
          exact ⟨j, hfront ▸ List.mem_cons_of_mem x hj⟩
        · rw [Function.update_of_ne hji] at hj
          exact ⟨j, hj⟩

/-- A reader that finds nothing outside one source reads that source, whatever the
order of the rest. -/
theorem filterMap_eq (hmerged : Interleaving sources merged) {f : α → Option β} {k : ι}
    (hothers : ∀ i, i ≠ k → ∀ x ∈ sources i, f x = none) :
    merged.filterMap f = (sources k).filterMap f := by
  induction hmerged with
  | done hdone => rw [hdone k]
  | @next sources i x rest merged hfront _ ih =>
      by_cases hik : i = k
      · subst hik
        have hrest : merged.filterMap f = rest.filterMap f := by
          rw [ih, Function.update_self]
          intro j hj y hy
          rw [Function.update_of_ne hj] at hy
          exact hothers j hj y hy
        rw [hfront, List.filterMap_cons, List.filterMap_cons, hrest]
      · have hx : f x = none := hothers i hik x (hfront ▸ List.mem_cons_self)
        rw [List.filterMap_cons_none hx, ih, Function.update_of_ne (Ne.symm hik)]
        intro j hj y hy
        by_cases hji : j = i
        · subst hji
          rw [Function.update_self] at hy
          exact hothers j hj y (hfront ▸ List.mem_cons_of_mem x hy)
        · rw [Function.update_of_ne hji] at hy
          exact hothers j hj y hy

end Interleaving

/-! ## Line ends -/

/-- How a line of a journal may end. -/
inductive LineEnd
  | feed
  | returnFeed

/-- The characters that end a line. -/
def LineEnd.text : LineEnd → String
  | .feed => "\n"
  | .returnFeed => "\r\n"

/-- A journal text with the given lines, each with an end of its own. The last line
may do without one. -/
inductive Written : List String → String → Prop
  | nil : Written [] ""
  | last (line : String) : Written [line] line
  | cons (line : String) (ending : LineEnd) {lines : List String} {journal : String}
      (hrest : Written lines journal) : Written (line :: lines) (line ++ ending.text ++ journal)

namespace Written

variable {lines : List String} {journal : String}

theorem esc_not_mem (hwritten : Written lines journal)
    (hlines : ∀ line ∈ lines, Terminal.esc ∉ line.toList) : Terminal.esc ∉ journal.toList := by
  induction hwritten with
  | nil => simp
  | last line => exact hlines line (by simp)
  | cons line ending _ ih =>
      have hline : Terminal.esc ∉ line.toList := hlines line (by simp)
      have hending : Terminal.esc ∉ ending.text.toList := by cases ending <;> decide
      have hrest := ih fun line hmem => hlines line (List.mem_cons_of_mem _ hmem)
      simp [hline, hending, hrest]

/-- A reader that does not depend on a carriage return reads the lines as they were
written. -/
theorem filterMap_lines {β : Type} {f : List Char → Option β}
    (hwritten : Written lines journal) (hfeed : ∀ line ∈ lines, '\n' ∉ line.toList)
    (hnil : f [] = none)
    (hreturn : ∀ line ∈ lines, f (Text.dropReturn line.toList) = f line.toList) :
    (Text.lines journal.toList).filterMap f = lines.filterMap fun line => f line.toList := by
  induction hwritten with
  | nil => simp [Text.lines_of_not_mem, hnil]
  | last line => rw [Text.lines_of_not_mem (hfeed line (by simp))]; rfl
  | @cons line ending lines journal _ ih =>
      have hline : '\n' ∉ line.toList := hfeed line (by simp)
      have hrest := ih (fun line hmem => hfeed line (List.mem_cons_of_mem _ hmem))
        fun line hmem => hreturn line (List.mem_cons_of_mem _ hmem)
      cases ending with
      | feed =>
          have htext : (line ++ LineEnd.feed.text ++ journal).toList =
              line.toList ++ '\n' :: journal.toList := by simp [LineEnd.text]
          rw [htext, Text.lines_cons_feed hline, List.filterMap_cons, List.filterMap_cons, hrest,
            hreturn line (by simp)]
      | returnFeed =>
          have htext : (line ++ LineEnd.returnFeed.text ++ journal).toList =
              (line.toList ++ ['\r']) ++ '\n' :: journal.toList := by simp [LineEnd.text]
          rw [htext, Text.lines_cons_feed (by simp [hline]), Text.dropReturn_append_return,
            List.filterMap_cons, List.filterMap_cons, hrest]

end Written

/-! ## Runs -/

/-- Text that ends no line and starts no escape sequence. -/
structure Plain (text : String) : Prop where
  no_feed : '\n' ∉ text.toList
  no_escape : Terminal.esc ∉ text.toList

theorem Plain.append {first second : String} (hfirst : Plain first) (hsecond : Plain second) :
    Plain (first ++ second) where
  no_feed := by simp [hfirst.no_feed, hsecond.no_feed]
  no_escape := by simp [hfirst.no_escape, hsecond.no_escape]

/-- What a script prints at once: a payload, or only the head of a line. -/
structure Emission where
  channel : Channel
  payload : Option String

/-- The line that the compositor writes for an emission. -/
def Emission.line (marker : String) (emission : Emission) : String :=
  hostPrefix ++ encode marker emission.channel emission.payload

/-- A run, with all that it prints. Its marker is one word, and no payload ends in
a carriage return, which could not be told from a part of the line end. -/
structure Run where
  marker : String
  emissions : List Emission
  marker_plain : Plain marker
  marker_solid : ' ' ∉ marker.toList
  payload_plain : ∀ emission ∈ emissions, ∀ payload ∈ emission.payload, Plain payload
  payload_last : ∀ emission ∈ emissions, ∀ payload ∈ emission.payload,
    payload.toList.getLast? ≠ some '\r'

namespace Run

/-- The journal lines of a run. -/
def lines (run : Run) : List String := run.emissions.map (Emission.line run.marker)

/-- The payloads of a run on one channel, in order. No payload counts as an empty
one. -/
def payloads (run : Run) (channel : Channel) : List String :=
  (run.emissions.filter fun emission => emission.channel = channel).map fun emission =>
    emission.payload.getD ""

/-- What a run has printed. -/
def output (run : Run) : Output where
  started := run.emissions.any fun emission => emission.channel = .start
  finished := run.emissions.any fun emission => emission.channel = .finish
  results := run.payloads .result
  errors := run.payloads .error
  debug := run.payloads .debug

end Run

theorem plain_tag (channel : Channel) : Plain channel.tag := by
  cases channel <;> exact ⟨by decide, by decide⟩

theorem plain_line {marker : String} (hmarker : Plain marker) {emission : Emission}
    (hpayload : ∀ payload ∈ emission.payload, Plain payload) : Plain (emission.line marker) := by
  obtain ⟨channel, payload⟩ := emission
  have hspace : Plain " " := ⟨by decide, by decide⟩
  have hhost : Plain hostPrefix := ⟨by decide, by decide⟩
  have hhead : Plain (head marker channel) := (hmarker.append hspace).append (plain_tag channel)
  cases payload with
  | none => exact hhost.append hhead
  | some payload => exact hhost.append ((hhead.append hspace).append (hpayload payload rfl))

/-- The line of an emission ends like its payload, or in a letter or a space. -/
theorem dropReturn_line (marker : String) {emission : Emission}
    (hpayload : ∀ payload ∈ emission.payload, payload.toList.getLast? ≠ some '\r') :
    Text.dropReturn (emission.line marker).toList = (emission.line marker).toList := by
  apply Text.dropReturn_of_getLast?_ne
  obtain ⟨channel, payload⟩ := emission
  cases payload with
  | none => cases channel <;> simp [Emission.line, encode, head, Channel.tag]
  | some payload =>
      have hlast : (' ' :: payload.toList).getLast? ≠ some '\r' := by
        rw [List.getLast?_cons]
        cases hfound : payload.toList.getLast? with
        | none => simp
        | some c => simpa [hfound] using hpayload payload rfl
      have htext : (Emission.line marker ⟨channel, some payload⟩).toList =
          (hostPrefix ++ head marker channel).toList ++ (' ' :: payload.toList) := by
        simp [Emission.line, encode]
      rwa [htext, List.getLast?_append_cons]

/-- The lines of emissions, read by their own marker. -/
theorem filterMap_readLine?_line (marker : String) (emissions : List Emission) :
    (emissions.map (Emission.line marker)).filterMap (readLine? hostPrefix marker) =
      emissions.map fun emission => ⟨emission.channel, emission.payload.getD ""⟩ := by
  rw [List.filterMap_map, ← List.filterMap_eq_map]
  congr 1
  funext emission
  exact readLine?_encode hostPrefix marker emission.channel emission.payload

/-- Where the lines of a journal come from. -/
def sources {ι : Type} (runs : ι → Run) (chatter : List String) : Option ι → List String
  | none => chatter
  | some i => (runs i).lines

section

variable {ι : Type} {runs : ι → Run} {chatter : List String}

theorem plain_of_mem_sources (hchatter : ∀ line ∈ chatter, Plain line) {source : Option ι}
    {line : String} (hline : line ∈ sources runs chatter source) : Plain line := by
  cases source with
  | none => exact hchatter line hline
  | some i =>
      obtain ⟨emission, hemission, rfl⟩ := List.mem_map.mp hline
      exact plain_line (runs i).marker_plain ((runs i).payload_plain emission hemission)

/-- No source but a run itself has lines of its marker. -/
theorem not_head_of_mem_sources (hmarkers : Function.Injective fun i => (runs i).marker)
    {i : ι} (hforeign : ∀ line ∈ chatter, ¬ lineHead hostPrefix (runs i).marker <+: line.toList)
    {source : Option ι} (hsource : source ≠ some i) {line : String}
    (hline : line ∈ sources runs chatter source) :
    ¬ lineHead hostPrefix (runs i).marker <+: line.toList := by
  cases source with
  | none => exact hforeign line hline
  | some j =>
      obtain ⟨emission, -, rfl⟩ := List.mem_map.mp hline
      have hij : (runs i).marker ≠ (runs j).marker := fun heq =>
        hsource (congrArg some (hmarkers heq).symm)
      exact not_lineHead_encode (runs j).marker_solid (runs i).marker_solid hij _ _ _

/-- A carriage return at the end of a line says nothing to any run. -/
theorem readLine?_dropReturn_of_mem_sources
    (hmarkers : Function.Injective fun i => (runs i).marker) {i : ι}
    (hforeign : ∀ line ∈ chatter, ¬ lineHead hostPrefix (runs i).marker <+: line.toList)
    {source : Option ι} {line : String} (hline : line ∈ sources runs chatter source) :
    readLine? hostPrefix (runs i).marker (String.ofList (Text.dropReturn line.toList)) =
      readLine? hostPrefix (runs i).marker (String.ofList line.toList) := by
  by_cases hsource : source = some i
  · subst hsource
    obtain ⟨emission, hemission, rfl⟩ := List.mem_map.mp hline
    rw [dropReturn_line _ ((runs i).payload_last emission hemission)]
  · have hhead := not_head_of_mem_sources hmarkers hforeign hsource hline
    rw [readLine?_dropReturn_of_not_head hhead, readLine?_of_not_head hhead]

end

/-- A journal of plain lines is read line by line if carriage returns at their ends
make no difference. -/
theorem Written.linesOf_eq {lines : List String} {journal marker : String}
    (hwritten : Written lines journal) (hplain : ∀ line ∈ lines, Plain line)
    (hreturn : ∀ line ∈ lines,
      readLine? hostPrefix marker (String.ofList (Text.dropReturn line.toList)) =
        readLine? hostPrefix marker line) :
    Journal.linesOf hostPrefix marker journal =
      lines.filterMap (readLine? hostPrefix marker) := by
  have hstrip : Terminal.strip journal.toList = journal.toList :=
    Terminal.strip_of_not_mem
      (hwritten.esc_not_mem fun line hline => (hplain line hline).no_escape)
  rw [Journal.linesOf, hstrip,
    hwritten.filterMap_lines fun line hline => (hplain line hline).no_feed]
  · simp
  · exact readLine?_nil hostPrefix marker
  · simpa using hreturn

theorem Run.ofLines_emissions (run : Run) :
    Output.ofLines (run.emissions.map fun emission =>
      ⟨emission.channel, emission.payload.getD ""⟩) = run.output := by
  simp [Output.ofLines, Run.output, Journal.payloads, Run.payloads, List.any_map, List.filter_map,
    Function.comp_def]

/-- Runs are separated. Whatever the order in which the lines of runs with different
markers and the lines of others reach the journal, and however they end, the marker
of each run gives back exactly what that run printed. -/
theorem demultiplex_interleaving {ι : Type} [DecidableEq ι] (runs : ι → Run)
    (hmarkers : Function.Injective fun i => (runs i).marker) (chatter : List String)
    (hplain : ∀ line ∈ chatter, Plain line)
    (hforeign : ∀ line ∈ chatter, ∀ i, ¬ lineHead hostPrefix (runs i).marker <+: line.toList)
    {lines : List String} (hlines : Interleaving (sources runs chatter) lines)
    {journal : String} (hjournal : Written lines journal) (i : ι) :
    demultiplex journal (runs i).marker = (runs i).output := by
  have hplainLines : ∀ line ∈ lines, Plain line := by
    intro line hline
    obtain ⟨source, hsource⟩ := hlines.exists_source line hline
    exact plain_of_mem_sources hplain hsource
  have hread : linesOf hostPrefix (runs i).marker journal =
      lines.filterMap (readLine? hostPrefix (runs i).marker) := by
    apply hjournal.linesOf_eq hplainLines
    intro line hline
    obtain ⟨source, hsource⟩ := hlines.exists_source line hline
    simpa using
      readLine?_dropReturn_of_mem_sources hmarkers (fun line h => hforeign line h i) hsource
  have hown : lines.filterMap (readLine? hostPrefix (runs i).marker) =
      (sources runs chatter (some i)).filterMap (readLine? hostPrefix (runs i).marker) := by
    apply hlines.filterMap_eq
    intro source hsource line hline
    have hhead :=
      not_head_of_mem_sources hmarkers (fun line h => hforeign line h i) hsource hline
    simpa using readLine?_of_not_head hhead
  rw [demultiplex, demultiplexFrom, hread, hown, sources, Run.lines, filterMap_readLine?_line,
    Run.ofLines_emissions]

/-- Two runs at once. The marker of the second continues that of the first, and the
first prints what looks like a line of the second. -/
def twoRuns : Bool → Run
  | true =>
      { marker := "a"
        emissions := [⟨.start, none⟩, ⟨.result, some "js: ab RESULT x"⟩]
        marker_plain := ⟨by decide, by decide⟩
        marker_solid := by decide
        payload_plain := by simpa using ⟨by decide, by decide⟩
        payload_last := by simp }
  | false =>
      { marker := "ab"
        emissions := [⟨.error, some ""⟩]
        marker_plain := ⟨by decide, by decide⟩
        marker_solid := by decide
        payload_plain := by simpa using ⟨by decide, by decide⟩
        payload_last := by simp }

theorem demultiplex_twoRuns :
    demultiplex "js: a START\r\njs: ab ERROR \nkwin: ready\r\njs: a RESULT js: ab RESULT x" "a" =
      ⟨true, false, ["js: ab RESULT x"], [], []⟩ ∧
    demultiplex "js: a START\r\njs: ab ERROR \nkwin: ready\r\njs: a RESULT js: ab RESULT x" "ab" =
      ⟨false, false, [], [""], []⟩ := by
  have hmarkers : Function.Injective fun i => (twoRuns i).marker := by
    intro i j
    cases i <;> cases j <;> decide
  have hforeign : ∀ line ∈ ["kwin: ready"], ∀ i,
      ¬ lineHead hostPrefix (twoRuns i).marker <+: line.toList := by
    decide
  have hlines : Interleaving (sources twoRuns ["kwin: ready"])
      ["js: a START", "js: ab ERROR ", "kwin: ready", "js: a RESULT js: ab RESULT x"] := by
    refine .next (some true) rfl (.next (some false) rfl (.next none rfl
      (.next (some true) rfl (.done ?_))))
    rintro (_ | _ | _) <;> rfl
  have hjournal : Written
      ["js: a START", "js: ab ERROR ", "kwin: ready", "js: a RESULT js: ab RESULT x"]
      "js: a START\r\njs: ab ERROR \nkwin: ready\r\njs: a RESULT js: ab RESULT x" :=
    .cons _ .returnFeed (.cons _ .feed (.cons _ .returnFeed (.last _)))
  have hplain : ∀ line ∈ ["kwin: ready"], Plain line := by
    simpa using ⟨by decide, by decide⟩
  exact ⟨demultiplex_interleaving twoRuns hmarkers _ hplain hforeign hlines hjournal true,
    demultiplex_interleaving twoRuns hmarkers _ hplain hforeign hlines hjournal false⟩

end WindowScript.Journal
