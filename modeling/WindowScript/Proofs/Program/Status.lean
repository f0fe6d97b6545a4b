/-
# How the program ends

Everything that the user can tell about a call of the program is decided by the
command line, the environment and the replies of the helper programs. A call asks for
a text, is a dry run, runs to its end, or fails; which of these it is, and what comes
of it, is said here without performing anything, and the program keeps to it. The exit
status is 0 exactly if there is nothing to complain about, and what fails writes nothing
to the output and its message to the end of the error output.

The run log is left out: choosing it is taken to succeed.
-/

import WindowScript.Program
import WindowScript.Proofs.Run.Execution

namespace WindowScript

/-- A line that is written to the output. -/
def Effect.output? : Effect → Option String
  | .output line => some line
  | _ => none

/-- The lines that are written to the output, in order. -/
def outputs (effects : List Effect) : List String := effects.filterMap Effect.output?

theorem outputs_append (first second : List Effect) :
    outputs (first ++ second) = outputs first ++ outputs second :=
  List.filterMap_append

/-- Lines on the output are shown. -/
theorem outputs_shown (effects : List Effect) : outputs (shown effects) = outputs effects := by
  rw [outputs, outputs, shown, List.filterMap_filter]
  congr 1
  funext effect
  cases effect <;> rfl

namespace Program

/-! ## Endings -/

/-- How a call of the program ends. -/
inductive Ending
  | told (text : String)
  | dryRun (script : String)
  | completed (output : Journal.Output)
  | failed (failure : Failure)

/-- The exit status of an ending. -/
def Ending.status : Ending → Nat
  | .told _ => 0
  | .dryRun _ => 0
  | .completed output => if output.errors = [] then 0 else 1
  | .failed _ => 1

/-- What an ending writes to the output. -/
def Ending.outputs : Ending → List String
  | .told text => [text]
  | .dryRun script => [script]
  | .completed output => output.results
  | .failed _ => []

/-- The script file of a call. -/
def Invocation.file (invocation : Invocation) : ScriptFile :=
  ScriptFile.inDirectory invocation.temporary invocation.suffix

/-- How the commands of a call end, with the given settings. -/
def endingOf (invocation : Invocation) (config : Config) (commands : List String)
    (world : World) : Ending :=
  match Script.compile ⟨invocation.file.marker, config.debug, config.kde5⟩ commands with
  | .error error => .failed (.command error)
  | .ok script =>
      if config.dryRun then .dryRun script.text
      else match Run.collected { timeout := config.timeout } invocation.file world with
        | .error failure => .failed failure
        | .ok output => .completed output

/-- How a call ends, told from the command line and the world. -/
def ending (invocation : Invocation) (world : World) : Ending :=
  match Options.parse world.environment invocation.args with
  | .error error => .failed (.command error)
  | .ok .help => .told Usage.text
  | .ok .version => .told version
  | .ok (.run overrides commands) => endingOf invocation overrides.config commands world

/-- A report that keeps to an ending. -/
structure KeepsTo (ending : Ending) (report : Report) : Prop where
  status_eq : report.status = ending.status
  outputs_eq : WindowScript.outputs report.effects = ending.outputs
  launches_eq : ∀ script, ending = .dryRun script → report.launches = []
  stderr_eq : ∀ failure, ending = .failed failure →
    ∃ before, report.stderr = before ++ ("Error: " ++ failure.message ++ "\n")

/-! ## Jobs -/

/-- What a job shows and asks for is what its commands make it show and ask for, framed
by making and removing the script file. -/
theorem job_framed (invocation : Invocation) (config : Config) (commands : List String)
    (world : World) :
    let done := job invocation config commands world
    let inner := Run.compileAndExecute config (.ofPrograms invocation.file config.timeout)
      invocation.file commands world
    done.outcome = inner.outcome ∧ shown done.effects = shown inner.effects ∧
      requests done.effects =
        .create invocation.file.marker :: requests inner.effects ++ [.remove] := by
  intro done inner
  obtain ⟨told, htold, hrequests, hshown⟩ :=
    Run.shows_announce config.debug "===== Generate KWin script =====" world
  have hdone : done = ⟨.event world.clock.instant?
      [("event", .string "run_start"), ("args", .array (invocation.args.map .string))] ::
        (told ++ .create invocation.file.marker :: (inner.effects ++ [.remove])),
      inner.world, inner.outcome⟩ := by
    change (Job.event _ >>= fun _ => Run.run config _ commands) world = _
    rw [Job.bind_of_ok rfl, Run.run, Job.bind_of_ok htold]
    rfl
  rw [hdone]
  refine ⟨rfl, ?_, ?_⟩
  · change shown (told ++ ([.create invocation.file.marker] ++ (inner.effects ++ [.remove]))) = _
    rw [shown_append, shown_append, shown_append, hshown]
    exact List.append_nil _
  · change requests (told ++ ([.create invocation.file.marker] ++ (inner.effects ++ [.remove]))) = _
    rw [requests_append, requests_append, requests_append, hrequests]
    rfl

theorem launches_eq_nil {report : Report}
    (hrequests : ∀ launch environment, .launch launch environment ∉ requests report.effects) :
    report.launches = [] := by
  rw [Report.launches, List.filterMap_eq_nil_iff]
  intro effect hmem
  cases effect with
  | launch launch environment => exact absurd (mem_requests hmem rfl) (hrequests launch environment)
  | _ => rfl

theorem outputs_of_shown_eq {effects lines : List Effect} (hshown : shown effects = lines) :
    outputs effects = outputs lines := by
  rw [← hshown, outputs_shown]

theorem keepsTo_failed {effects : List Effect} (hshown : shown effects = [])
    (directories : List Directory.Place) (place : Option Directory.Place) (failure : Failure) :
    KeepsTo (.failed failure) (failed effects directories place failure) := by
  refine ⟨rfl, ?_, ?_, ?_⟩
  · rw [failed, outputs_append, outputs_of_shown_eq hshown]
    rfl
  · rintro script ⟨⟩
  · rintro _ ⟨⟩
    refine ⟨Report.stderr ⟨effects, 1, directories, none⟩, ?_⟩
    simp [failed, Report.stderr, String.join_append]

/-! ## Calls of the program -/

/-- The run log of a call can be chosen, if there is to be one. -/
def LogChosen (invocation : Invocation) (config : Config) (commands : List String)
    (world : World) : Prop :=
  ∃ place, (chooseLog invocation config (commands.head?.getD "kdotool") world.clock).outcome =
    .ok place

section

variable {invocation : Invocation} {config : Config} {commands : List String} {world : World}

theorem keepsTo_runCommands_of_error (hlog : LogChosen invocation config commands world)
    {failure : Failure} (houtcome : (job invocation config commands world).outcome = .error failure)
    (hshown : shown (job invocation config commands world).effects = []) :
    KeepsTo (.failed failure) (runCommands invocation config commands world) := by
  obtain ⟨place, hplace⟩ := hlog
  unfold runCommands
  simp only [hplace, houtcome]
  exact keepsTo_failed hshown _ _ _

theorem runCommands_of_ok (hlog : LogChosen invocation config commands world)
    {outcome : Run.Outcome}
    (houtcome : (job invocation config commands world).outcome = .ok outcome) :
    (runCommands invocation config commands world).effects =
        (job invocation config commands world).effects ∧
      (runCommands invocation config commands world).status =
        if outcome.errors = [] then 0 else 1 := by
  obtain ⟨place, hplace⟩ := hlog
  unfold runCommands
  constructor
  · simp only [hplace, houtcome]
  · simp only [hplace, houtcome]

theorem keepsTo_runCommands_of_dryRun (hlog : LogChosen invocation config commands world)
    {script : Script.Compiled}
    (hcompile : Script.compile ⟨invocation.file.marker, config.debug, config.kde5⟩ commands =
      .ok script)
    (hdry : config.dryRun = true) :
    KeepsTo (.dryRun script.text) (runCommands invocation config commands world) := by
  obtain ⟨houtcome, hshown, hrequests⟩ := job_framed invocation config commands world
  obtain ⟨effects, hperformed, hquiet, hlines⟩ := Run.shows_compileAndExecute_of_dryRun
    hcompile hdry (.ofPrograms invocation.file config.timeout) world
  rw [hperformed] at houtcome hshown hrequests
  obtain ⟨heffects, hstatus⟩ := runCommands_of_ok hlog houtcome
  refine ⟨hstatus, ?_, fun _ _ => launches_eq_nil ?_, ?_⟩
  · rw [heffects]
    exact outputs_of_shown_eq (hshown.trans hlines)
  · simp [heffects, hrequests, hquiet]
  · rintro failure ⟨⟩

theorem keepsTo_runCommands_of_collected (hlog : LogChosen invocation config commands world)
    {script : Script.Compiled}
    (hcompile : Script.compile ⟨invocation.file.marker, config.debug, config.kde5⟩ commands =
      .ok script)
    (hdry : config.dryRun = false) {output : Journal.Output}
    (hcollected : Run.collected { timeout := config.timeout } invocation.file world = .ok output) :
    KeepsTo (.completed output) (runCommands invocation config commands world) := by
  obtain ⟨houtcome, hshown, -⟩ := job_framed invocation config commands world
  have hends := Run.ends_compileAndExecute hcompile hdry config.timeout world
  rw [hends.outcome_eq, hcollected] at houtcome
  obtain ⟨heffects, hstatus⟩ := runCommands_of_ok hlog houtcome
  refine ⟨hstatus, ?_, ?_, ?_⟩
  · rw [heffects, outputs_of_shown_eq (hshown.trans (hends.shown_of_ok output hcollected)),
      outputs_append]
    simp [outputs, Effect.output?, Ending.outputs, Function.comp_def]
  · rintro script ⟨⟩
  · rintro failure ⟨⟩

theorem keepsTo_runCommands (hlog : LogChosen invocation config commands world) :
    KeepsTo (endingOf invocation config commands world)
      (runCommands invocation config commands world) := by
  obtain ⟨houtcome, hshown, -⟩ := job_framed invocation config commands world
  unfold endingOf
  cases hcompile : Script.compile ⟨invocation.file.marker, config.debug, config.kde5⟩ commands with
  | error error =>
      rw [Run.compileAndExecute_of_error hcompile] at houtcome hshown
      exact keepsTo_runCommands_of_error hlog houtcome hshown
  | ok script =>
      cases hdry : config.dryRun with
      | true => exact keepsTo_runCommands_of_dryRun hlog hcompile hdry
      | false =>
          cases hcollected : Run.collected { timeout := config.timeout } invocation.file world with
          | ok output => exact keepsTo_runCommands_of_collected hlog hcompile hdry hcollected
          | error failure =>
              have hends := Run.ends_compileAndExecute hcompile hdry config.timeout world
              rw [hends.outcome_eq, hcollected] at houtcome
              rw [hends.shown_of_error failure hcollected] at hshown
              exact keepsTo_runCommands_of_error hlog houtcome hshown

end

theorem keepsTo_told (text : String) : KeepsTo (.told text) ⟨[.output text], 0, [], none⟩ := by
  refine ⟨rfl, rfl, ?_, ?_⟩
  · rintro script ⟨⟩
  · rintro failure ⟨⟩

/-- The program keeps to the ending that is told from its command line and the world. -/
theorem keepsTo_invoke {invocation : Invocation} {world : World}
    (hlog : ∀ overrides commands,
      Options.parse world.environment invocation.args = .ok (.run overrides commands) →
        LogChosen invocation overrides.config commands world) :
    KeepsTo (ending invocation world) (invoke invocation world) := by
  unfold ending invoke
  cases hparse : Options.parse world.environment invocation.args with
  | error error => exact keepsTo_failed rfl _ _ _
  | ok request =>
      cases request with
      | help => exact keepsTo_told Usage.text
      | version => exact keepsTo_told version
      | run overrides commands => exact keepsTo_runCommands (hlog overrides commands hparse)

theorem Ending.status_eq_zero_or_one (ending : Ending) : ending.status = 0 ∨ ending.status = 1 := by
  cases ending with
  | told text => exact .inl rfl
  | dryRun script => exact .inl rfl
  | completed output =>
      rw [Ending.status]
      split
      · exact .inl rfl
      · exact .inr rfl
  | failed failure => exact .inr rfl

/-- Commands end with status 0 exactly if they compile, and are not to be run or run
without a flaw. -/
theorem status_endingOf_eq_zero_iff (invocation : Invocation) (config : Config)
    (commands : List String) (world : World) :
    (endingOf invocation config commands world).status = 0 ↔
      ∃ script, Script.compile ⟨invocation.file.marker, config.debug, config.kde5⟩ commands =
          .ok script ∧
        (config.dryRun = true ∨ Run.Flawless world invocation.file.marker) := by
  rw [← Run.exists_collected_iff_flawless config.timeout]
  unfold endingOf
  cases Script.compile ⟨invocation.file.marker, config.debug, config.kde5⟩ commands with
  | error error => simp [Ending.status]
  | ok script =>
      cases config.dryRun with
      | true => simp [Ending.status]
      | false =>
          cases Run.collected { timeout := config.timeout } invocation.file world with
          | error failure => simp [Ending.status]
          | ok output => simp [Ending.status]

theorem status_ending_eq_zero_iff {invocation : Invocation} {world : World} :
    (ending invocation world).status = 0 ↔
      Options.parse world.environment invocation.args = .ok .help ∨
      Options.parse world.environment invocation.args = .ok .version ∨
      ∃ overrides commands,
        Options.parse world.environment invocation.args = .ok (.run overrides commands) ∧
        ∃ script,
          Script.compile ⟨invocation.file.marker, overrides.debug, overrides.kde5⟩ commands =
            .ok script ∧
          (overrides.dryRun = true ∨ Run.Flawless world invocation.file.marker) := by
  unfold ending
  cases Options.parse world.environment invocation.args with
  | error error => simp [Ending.status]
  | ok request =>
      cases request with
      | help => simp [Ending.status]
      | version => simp [Ending.status]
      | run overrides commands =>
          have hstatus := status_endingOf_eq_zero_iff invocation overrides.config commands world
          constructor
          · exact fun hzero => .inr (.inr ⟨overrides, commands, rfl, hstatus.mp hzero⟩)
          · rintro (hhelp | hversion | ⟨overrides, commands, hrun, hscript⟩)
            · simp at hhelp
            · simp at hversion
            · obtain ⟨rfl, rfl⟩ := Options.Request.run.inj (Except.ok.inj hrun)
              exact hstatus.mpr hscript

/-- The exit status and the output of every call of the program, for every command line,
environment, script file and list of replies.

The status is 0 exactly if help or the version is asked for, or there are commands that
compile and either they are not to be run, or the programs that load, start and stop the
script and read the journal all exist and exit with code 0, the load request is answered
with an id that is not negative, and the script reported no problem. Otherwise it is 1. A
dry run starts no program and writes the script to the output, in one piece. A run that
gets its output back writes the results, one after the other. Whatever fails writes nothing to
the output, and its message is the end of the error output. -/
theorem invoke_exit_status (invocation : Invocation) (world : World)
    (hlog : ∀ overrides commands,
      Options.parse world.environment invocation.args = .ok (.run overrides commands) →
        LogChosen invocation overrides.config commands world) :
    let report := invoke invocation world
    let request := Options.parse world.environment invocation.args
    let marker := invocation.file.marker
    (report.status = 0 ↔ request = .ok .help ∨ request = .ok .version ∨
      ∃ overrides commands, request = .ok (.run overrides commands) ∧
        ∃ script, Script.compile ⟨marker, overrides.debug, overrides.kde5⟩ commands = .ok script ∧
          (overrides.dryRun = true ∨ Run.Flawless world marker)) ∧
    (report.status = 0 ∨ report.status = 1) ∧
    (∀ script, ending invocation world = .dryRun script →
      report.launches = [] ∧ outputs report.effects = [script]) ∧
    (∀ output, ending invocation world = .completed output →
      outputs report.effects = output.results) ∧
    ∀ failure, ending invocation world = .failed failure →
      report.status = 1 ∧ outputs report.effects = [] ∧
        ∃ before, report.stderr = before ++ ("Error: " ++ failure.message ++ "\n") := by
  intro report request marker
  have hkeeps : KeepsTo (ending invocation world) report := keepsTo_invoke hlog
  refine ⟨?_, ?_, fun script hending => ?_, fun output hending => ?_, fun failure hending => ?_⟩
  · rw [hkeeps.status_eq]
    exact status_ending_eq_zero_iff
  · rw [hkeeps.status_eq]
    exact Ending.status_eq_zero_or_one _
  · have houtputs := hkeeps.outputs_eq
    rw [hending] at houtputs
    exact ⟨hkeeps.launches_eq script hending, houtputs⟩
  · have houtputs := hkeeps.outputs_eq
    rwa [hending] at houtputs
  · obtain ⟨hstatus, houtputs, -, hstderr⟩ := hkeeps
    rw [hending] at hstatus houtputs
    exact ⟨hstatus, houtputs, hstderr failure hending⟩

/-- A call with one command. -/
def plainCall : Invocation where
  args := ["getactivewindow"]
  working := "/home"
  temporary := "/tmp"
  suffix := "a1B2c3"

/-- A world in which the first program writes the id 7 and then ends in some way. -/
def loadingWorld (ending : Helper.Ending) : World where
  clock := some (.integer 0)
  replies := [{ stdout := "(7,)".toUTF8.toList, stderr := "boom\n".toUTF8.toList, ending }]

theorem logChosen_plainCall (ending : Helper.Ending) (overrides : Overrides)
    (commands : List String)
    (hparse : Options.parse (loadingWorld ending).environment plainCall.args =
      .ok (.run overrides commands)) :
    LogChosen plainCall overrides.config commands (loadingWorld ending) := by
  obtain ⟨rfl, rfl⟩ := Options.Request.run.inj (Except.ok.inj hparse)
  exact ⟨none, rfl⟩

theorem result_loadingWorld (ending : Helper.Ending) :
    ((loadingWorld ending).replies.getD 0 {}).result = ⟨ending.code, "(7,)", "boom\n"⟩ := by
  have hstdout : String.ofList (Text.Utf8.decode "(7,)".toUTF8.toList) = "(7,)" := by
    decide +kernel
  have hstderr : String.ofList (Text.Utf8.decode "boom\n".toUTF8.toList) = "boom\n" := by
    decide +kernel
  simp only [loadingWorld, List.getD_cons_zero, Helper.Reply.result, hstdout, hstderr]

theorem answers_of_pos (ending : Helper.Ending) (i : Nat) (program : String) :
    (loadingWorld ending).Answers (i + 1) program "" := by
  refine ⟨List.not_mem_nil, rfl, ?_⟩
  change (Helper.Reply.result {}).stdout = ""
  simp [Helper.Reply.result]

/-- The program that loads the script exits with code 0, or is killed after it has
written the id. -/
theorem invoke_exit_status_killed :
    (invoke plainCall (loadingWorld (.exit 0))).status = 0 ∧
    let report := invoke plainCall (loadingWorld .signal)
    report.status = 1 ∧ outputs report.effects = [] ∧ ∃ before, report.stderr = before ++
      "Error: D-Bus call org.kde.kwin.Scripting.loadScript failed (exit 1): boom\n" := by
  have hparse : Command.parse ["getactivewindow"] = .ok [.activeWindow] :=
    Script.parse_cons rfl Script.parse_nil
  have hcompile := Script.compile_of_parse hparse
    ⟨plainCall.file.marker, Config.default.debug, Config.default.kde5⟩
  constructor
  · have hload : (loadingWorld (.exit 0)).Answers 0 "gdbus" "(7,)" := by
      rw [World.Answers, result_loadingWorld]
      exact ⟨List.not_mem_nil, rfl, rfl⟩
    refine (invoke_exit_status plainCall _ (logChosen_plainCall (.exit 0))).1.mpr (.inr (.inr ?_))
    exact ⟨_, _, rfl, _, hcompile, .inr ⟨_, "", hload, ⟨7, rfl, by decide⟩,
      ⟨_, answers_of_pos _ 0 _⟩, ⟨_, answers_of_pos _ 1 _⟩, answers_of_pos _ 2 _,
      by decide +kernel⟩⟩
  · have hanswer (blame : Helper.Result → Failure) (launch : Helper.Launch) :
        (loadingWorld .signal).answer 0 launch blame = .error (blame ⟨1, "(7,)", "boom\n"⟩) := by
      have hfile : launch.file ∉ (loadingWorld .signal).missing := List.not_mem_nil
      rw [World.answer, if_neg hfile, result_loadingWorld]
      rfl
    have hending : ending plainCall (loadingWorld .signal) = .failed
        (Compositor.Client.blame { timeout := Config.default.timeout } Compositor.scriptingPath
          Compositor.loadMethod [plainCall.file.path] ⟨1, "(7,)", "boom\n"⟩) := by
      change endingOf plainCall Config.default ["getactivewindow"] (loadingWorld .signal) = _
      rw [endingOf, hcompile]
      simp only [Run.collected, Compositor.Client.loaded, Compositor.Client.answer, hanswer]
      rfl
    exact (invoke_exit_status plainCall _ (logChosen_plainCall .signal)).2.2.2.2 _ hending

end Program

end WindowScript
