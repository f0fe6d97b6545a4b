/-
# Where the output of a run goes

A run whose requests are all granted gets a journal back, and what it shows is
decided by the journal and the marker alone: the results on the output, then the
problems on the error output. Settings and clocks change what is told along the way
and nothing else. Diagnostics are told apart by their labels: with debugging on,
those that carry the compositor's label are the messages of the script, and with
debugging off there are none.
-/

import WindowScript.Proofs.Journal.Marker
import WindowScript.Proofs.Run.Lifecycle
import WindowScript.Proofs.Terminal.Plain

namespace WindowScript

open WindowScript.Calendar (Instant)

/-! ## Labels -/

namespace Terminal

/-- The message of a diagnostic line that carries the label of a source. What
stands before the label is a time in dim letters, whatever it says. -/
def message? (source : Source) (text : String) : Option String :=
  (Text.after? Style.dim.code.toList text.toList).bind fun timed =>
    (Text.after? (Style.reset.code ++ " " ++ source.label ++ " ").toList
      (timed.dropWhile (· ≠ esc))).map String.ofList

/-- A diagnostic is read back under its own label and under no other. -/
theorem message?_diagnostic (source other : Source) (instant : Option Instant)
    (message : String) :
    message? source (diagnostic instant other message) =
      if source = other then some message else none := by
  have htime : ((Calendar.timestamp instant).toList ++
      (Style.reset.code ++ " " ++ other.label ++ " " ++ message).toList).dropWhile (· ≠ esc) =
        (Style.reset.code ++ " " ++ other.label ++ " ").toList ++ message.toList := by
    rw [List.dropWhile_append_of_pos]
    · rw [String.toList_append, String.toList_append, String.toList_append]
      rfl
    · intro c hc
      rw [decide_eq_true_eq]
      rintro rfl
      exact esc_not_mem_timestamp instant hc
  have htext : (diagnostic instant other message).toList = Style.dim.code.toList ++
      ((Calendar.timestamp instant).toList ++
        (Style.reset.code ++ " " ++ other.label ++ " " ++ message).toList) := by
    simp [diagnostic, timeLabel, Style.apply]
  rw [message?, Text.after?_eq_some_iff.mpr htext, Option.bind_some, htime]
  split
  next hsame =>
      rw [hsame, Text.after?_eq_some_iff.mpr rfl]
      simp
  next hne =>
      rw [Option.map_eq_none_iff, Option.eq_none_iff_forall_ne_some]
      intro rest hrest
      rw [Text.after?_eq_some_iff] at hrest
      -- The colours of the labels differ.
      cases source with
      | tool =>
          cases other with
          | tool => exact hne rfl
          | compositor => simp [Source.label, Style.apply, Style.code] at hrest
      | compositor =>
          cases other with
          | tool => simp [Source.label, Style.apply, Style.code] at hrest
          | compositor => exact hne rfl

end Terminal

/-- The text of a diagnostic. -/
def Effect.diagnostic? : Effect → Option String
  | .diagnostic text => some text
  | _ => none

/-- The diagnostics among effects, in order. -/
def diagnostics (effects : List Effect) : List String := effects.filterMap Effect.diagnostic?

/-- The messages of diagnostics that carry the compositor's label, in order. -/
def relayed (effects : List Effect) : List String :=
  (diagnostics effects).filterMap (Terminal.message? .compositor)

theorem diagnostics_append (first second : List Effect) :
    diagnostics (first ++ second) = diagnostics first ++ diagnostics second :=
  List.filterMap_append

theorem relayed_append (first second : List Effect) :
    relayed (first ++ second) = relayed first ++ relayed second := by
  rw [relayed, diagnostics_append, List.filterMap_append]
  rfl

/-! ## Granted requests -/

namespace Run

/-- A job that ended well: the lines it showed, the messages it relayed, and its
value. Without debugging it printed no diagnostics. -/
structure Reports {α : Type} (debug : Bool) (lines : List Effect) (messages : List String)
    (a : α) (done : Performed α) : Prop where
  outcome_eq : done.outcome = .ok a
  shown_eq : shown done.effects = lines
  relayed_eq : relayed done.effects = messages
  quiet : debug = false → diagnostics done.effects = []

section

variable {α β : Type} {debug : Bool} {world : World} {job : Job α} {next : α → Job β}
  {lines lines' : List Effect} {messages messages' : List String} {a : α} {b : β}

theorem Reports.bind (hjob : Reports debug lines messages a (job world))
    (hnext : ∀ world, Reports debug lines' messages' b (next a world)) :
    Reports debug (lines ++ lines') (messages ++ messages') b ((job >>= next) world) := by
  obtain ⟨houtcome, hshown, hrelayed, hquiet⟩ := hnext (job world).world
  rw [Job.bind_of_ok (Performed.eq_of_outcome hjob.outcome_eq)]
  refine ⟨houtcome, ?_, ?_, fun hdebug => ?_⟩
  · rw [shown_append, hjob.shown_eq, hshown]
  · rw [relayed_append, hjob.relayed_eq, hrelayed]
  · rw [diagnostics_append, hjob.quiet hdebug, hquiet hdebug, List.append_nil]

/-- What shows nothing changes nothing. -/
theorem Reports.of_quiet (hjob : Reports debug [] [] a (job world))
    (hnext : ∀ world, Reports debug lines messages b (next a world)) :
    Reports debug lines messages b ((job >>= next) world) :=
  hjob.bind hnext

theorem Reports.ensuring_remove (hjob : Reports debug lines messages a (job world)) :
    Reports debug lines messages a (job.ensuring .remove world) := by
  obtain ⟨houtcome, hshown, hrelayed, hquiet⟩ := hjob
  refine ⟨houtcome, ?_, ?_, fun hdebug => ?_⟩
  · rw [Job.ensuring, shown_append, hshown]
    exact List.append_nil _
  · rw [Job.ensuring, relayed_append, hrelayed]
    exact List.append_nil _
  · rw [Job.ensuring, diagnostics_append, hquiet hdebug]
    rfl

theorem reports_pure (a : α) (world : World) : Reports debug [] [] a ((pure a : Job α) world) :=
  ⟨rfl, rfl, rfl, fun _ => rfl⟩

theorem reports_clock_bind {next : Calendar.Clock → Job β}
    (hnext : ∀ clock world, Reports debug lines messages b (next clock world)) (world : World) :
    Reports debug lines messages b ((Job.clock >>= next) world) :=
  hnext world.clock world

theorem reports_event (fields : List (String × Json)) (world : World) :
    Reports debug [] [] () (Job.event fields world) :=
  ⟨rfl, rfl, rfl, fun _ => rfl⟩

theorem reports_emitAll {effects : List Effect} (heffects : ∀ effect ∈ effects, effect.isShown)
    (world : World) : Reports debug effects [] () (Job.emitAll effects world) := by
  have hnone : diagnostics effects = [] := by
    rw [diagnostics, List.filterMap_eq_nil_iff]
    intro effect hmem
    have hshown := heffects effect hmem
    cases effect <;> simp [Effect.isShown, Effect.diagnostic?] at hshown ⊢
  refine ⟨rfl, List.filter_eq_self.mpr heffects, ?_, fun _ => hnone⟩
  simp [Job.emitAll, relayed, hnone]

/-- A request that is granted shows nothing by itself. -/
theorem reports_response {response : Host.Response α} (houtcome : response.outcome = .ok a)
    {request : Effect} (hrequest : request.isRequest) (world : World) :
    Reports debug [] [] a (response.job request world) := by
  rw [response.job_eq, houtcome]
  cases request with
  | create _ | write _ | remove | call _ | launch _ _ => exact ⟨rfl, rfl, rfl, fun _ => rfl⟩
  | log _ | event _ _ | output _ | problem _ | diagnostic _ => simp [Effect.isRequest] at hrequest

end

/-! ## The parts of a run -/

theorem reports_announce (debug : Bool) (message : String) (world : World) :
    Reports debug [] [] () (announce debug message world) := by
  cases debug with
  | false => exact ⟨rfl, rfl, rfl, fun _ => rfl⟩
  | true =>
      refine ⟨rfl, rfl, ?_, by simp⟩
      change [Terminal.diagnostic world.clock.instant? .tool message].filterMap
        (Terminal.message? .compositor) = []
      simp [Terminal.message?_diagnostic]

theorem reports_relay (debug : Bool) (lines : List String) (world : World) :
    Reports debug [] (if debug then lines else []) () (relay debug lines world) := by
  cases debug with
  | false => exact ⟨rfl, rfl, rfl, fun _ => rfl⟩
  | true =>
      have hdone : relay true lines world = ⟨lines.map fun line =>
          .diagnostic (Terminal.diagnostic world.clock.instant? .compositor line),
        world, .ok ()⟩ := rfl
      rw [hdone]
      refine ⟨rfl, ?_, ?_, by simp⟩
      · simp [shown, Effect.isShown]
      · simp [relayed, diagnostics, Effect.diagnostic?, Function.comp_def,
          Terminal.message?_diagnostic]

/-- A report relays the messages of the script if asked to, and shows the results and
then the problems. -/
theorem reports_report (config : Config) (marker : String) (since : Option Instant)
    (journal : String) (world : World) :
    let output := Journal.demultiplex journal marker
    Reports config.debug (output.results.map .output ++ output.errors.map .problem)
      (if config.debug then output.debug else []) ⟨output.results, output.errors, output.finished⟩
      (report config marker since journal world) := by
  intro output
  have hclosing (fields : Calendar.Clock → List (String × Json)) (outcome : Outcome)
      (world : World) : Reports config.debug [] [] outcome ((do
        let clock ← Job.clock
        Job.event (fields clock)
        return outcome : Job Outcome) world) :=
    reports_clock_bind
      (fun _ _ => (reports_event _ _).of_quiet fun _ => reports_pure outcome _) world
  have hreports : Reports config.debug
      ([] ++ (output.results.map .output ++ (output.errors.map .problem ++ [])))
      ((if config.debug then output.debug else []) ++ ([] ++ ([] ++ [])))
      ⟨output.results, output.errors, output.finished⟩
      (report config marker since journal world) := by
    unfold report
    refine (reports_announce _ _ _).of_quiet fun _ => (reports_relay _ _ _).bind fun _ =>
      (reports_emitAll (by simp [Effect.isShown]) _).bind fun _ =>
        (reports_emitAll (by simp [Effect.isShown]) _).bind fun _ => ?_
    dsimp only
    split
    · exact (reports_announce _ _ _).of_quiet (hclosing _ _)
    · exact hclosing _ _ _
  simpa using hreports

/-! ## Runs -/

end Run

/-- Every request of a rehearsal is granted, and the journal has the given text. -/
structure Host.Rehearsal.Grants (rehearsal : Host.Rehearsal) (journal : String) : Prop where
  write : rehearsal.write.outcome = .ok ()
  load : ∃ id, rehearsal.load.outcome = .ok id
  start : rehearsal.start.outcome = .ok ()
  stop : rehearsal.stop.outcome = .ok ()
  journal : rehearsal.journal.outcome = .ok journal

namespace Run

variable {rehearsal : Host.Rehearsal} {journal : String}

theorem reports_execute (config : Config) (hgrants : rehearsal.Grants journal) (text : String)
    (world : World) :
    let output := Journal.demultiplex journal rehearsal.file.marker
    Reports config.debug (output.results.map .output ++ output.errors.map .problem)
      (if config.debug then output.debug else []) ⟨output.results, output.errors, output.finished⟩
      (execute config (.rehearsed rehearsal) rehearsal.file text world) := by
  obtain ⟨hwrite, ⟨id, hload⟩, hstart, hstop, hjournal⟩ := hgrants
  unfold execute
  refine (reports_response hwrite rfl _).of_quiet fun world => ?_
  rw [Job.now_bind]
  refine (reports_announce _ _ _).of_quiet fun _ => (reports_response hload rfl _).of_quiet
    fun _ => (reports_announce _ _ _).of_quiet fun _ => (reports_announce _ _ _).of_quiet
      fun _ => ?_
  refine (reports_response hstart rfl _).of_quiet fun _ =>
    (reports_response hstop rfl _).of_quiet fun _ => ?_
  exact (reports_response hjournal rfl _).of_quiet (reports_report config _ _ journal)

/-- A run of commands that are accepted, with every request granted. -/
theorem reports_run {tokens : List String} {commands : List Command}
    (haccepted : Command.parse tokens = .ok commands) {config : Config}
    (hdry : config.dryRun = false) (hgrants : rehearsal.Grants journal) (world : World) :
    let output := Journal.demultiplex journal rehearsal.file.marker
    Reports config.debug (output.results.map .output ++ output.errors.map .problem)
      (if config.debug then output.debug else []) ⟨output.results, output.errors, output.finished⟩
      (run config (.rehearsed rehearsal) tokens world) := by
  unfold run
  refine (reports_announce _ _ _).of_quiet fun world => Reports.ensuring_remove ?_
  unfold compileAndExecute
  rw [Script.compile_of_parse haccepted]
  refine (reports_pure _ _).of_quiet fun _ => (reports_event _ _).of_quiet fun _ =>
    (reports_announce _ _ _).of_quiet fun world => ?_
  rw [hdry]
  exact reports_execute config hgrants _ world

/-- The output of a run goes where it belongs, for every command line that is accepted
and every journal that comes back.

The results are shown on the output and then the problems on the error output, each
in order, and both are brought back together with whether the last line of the script
stands in the journal. Another run of the same commands, marker and journal, with any
other settings, clock and host, shows the same lines and brings back the same. Without
debugging nothing else is printed, and with it the lines under the compositor's label
are the messages of the script, in order. -/
theorem run_routes_output {tokens : List String} {commands : List Command}
    (haccepted : Command.parse tokens = .ok commands) (config : Config)
    (hdry : config.dryRun = false) (hgrants : rehearsal.Grants journal) (world : World) :
    let done := run config (.rehearsed rehearsal) tokens world
    let output := Journal.demultiplex journal rehearsal.file.marker
    shown done.effects = output.results.map .output ++ output.errors.map .problem ∧
    done.outcome = .ok ⟨output.results, output.errors, output.finished⟩ ∧
    (output.finished = true ↔ ∃ payload : Option String,
      (Journal.hostPrefix ++ Journal.encode rehearsal.file.marker .finish payload).toList ∈
        Text.lines (Terminal.strip journal.toList)) ∧
    (∀ config' rehearsal' world', config'.dryRun = false → rehearsal'.Grants journal →
      rehearsal'.file.marker = rehearsal.file.marker →
      let other := run config' (.rehearsed rehearsal') tokens world'
      shown other.effects = shown done.effects ∧ other.outcome = done.outcome) ∧
    (config.debug = false → diagnostics done.effects = []) ∧
    (config.debug = true → relayed done.effects = output.debug) := by
  intro done output
  have hdone := reports_run haccepted hdry hgrants world
  refine ⟨hdone.shown_eq, hdone.outcome_eq, Journal.demultiplex_finished_iff, ?_, hdone.quiet, ?_⟩
  · intro config' rehearsal' world' hdry' hgrants' hmarker other
    have hother := reports_run haccepted hdry' hgrants' world'
    rw [hmarker] at hother
    exact ⟨hother.shown_eq.trans hdone.shown_eq.symm, hother.outcome_eq.trans hdone.outcome_eq.symm⟩
  · intro hdebug
    rw [hdone.relayed_eq, if_pos hdebug]

/-- A rehearsal in which all goes well and the script was stopped before its end. -/
def unfinished : Host.Rehearsal where
  file := ⟨"m", "/tmp/m/script.js"⟩
  load := ⟨.integer 20, .ok (.integer 7)⟩
  start := ⟨.integer 0, .ok ()⟩
  stop := ⟨.integer 3, .ok ()⟩
  journal := ⟨.integer 0,
    .ok "js: m ERROR e\njs: mm FINISH\r\njs: m DEBUG d\njs: m RESULT r\nm FINISH\n"⟩

theorem run_routes_output_unfinished :
    let config := { Config.default with debug := true }
    let done := run config (.rehearsed unfinished) ["getactivewindow"]
      { clock := some (.integer 1000) }
    shown done.effects = [.output "r", .problem "e"] ∧
      done.outcome = .ok ⟨["r"], ["e"], false⟩ ∧ relayed done.effects = ["d"] ∧
      let other := run { Config.default with kde5 := true } (.rehearsed unfinished)
        ["getactivewindow"] { clock := none }
      shown other.effects = shown done.effects ∧ other.outcome = done.outcome ∧
        diagnostics other.effects = [] := by
  have haccepted : Command.parse ["getactivewindow"] = .ok [.activeWindow] :=
    Script.parse_cons rfl Script.parse_nil
  have hgrants : unfinished.Grants
      "js: m ERROR e\njs: mm FINISH\r\njs: m DEBUG d\njs: m RESULT r\nm FINISH\n" :=
    ⟨rfl, ⟨_, rfl⟩, rfl, rfl, rfl⟩
  have houtput : Journal.demultiplex
      "js: m ERROR e\njs: mm FINISH\r\njs: m DEBUG d\njs: m RESULT r\nm FINISH\n" "m" =
        ⟨false, false, ["r"], ["e"], ["d"]⟩ := by
    rw [Journal.demultiplex, Journal.demultiplexFrom, Journal.linesOf,
      Terminal.strip_of_not_mem (by decide)]
    decide +kernel
  intro config done
  obtain ⟨hshown, houtcome, -, hsame, -, hrelayed⟩ :=
    run_routes_output haccepted config rfl hgrants { clock := some (.integer 1000) }
  obtain ⟨-, -, -, -, hquiet, -⟩ :=
    run_routes_output haccepted { Config.default with kde5 := true } rfl hgrants { clock := none }
  dsimp only [unfinished] at hshown houtcome hrelayed
  rw [houtput] at hshown houtcome hrelayed
  obtain ⟨hlines, hresult⟩ := hsame { Config.default with kde5 := true } unfinished
    { clock := none } rfl hgrants rfl
  exact ⟨hshown, houtcome, hrelayed rfl, hlines, hresult, hquiet rfl⟩

end Run

end WindowScript
