/-
# The life of a run

A run makes its requests in a fixed order: write the script, load it, start it,
stop it, read the journal. The first one that fails ends the run with its failure.
What was tried so far, the failing request included, is all that the host has seen,
and the user has seen nothing. Whatever happens, the script file is removed once,
at the very end.

The host is a rehearsal: each request takes any time and ends in any way. What a
run tells its log and its terminal along the way is no request and does not count
as output.
-/

import WindowScript.Proofs.Script.Staging
import WindowScript.Run.Basic

namespace WindowScript

open WindowScript.Calendar (Instant)

/-! ## Effects -/

/-- Effects that are lines for the user. -/
def Effect.isShown : Effect → Bool
  | .output _ | .problem _ => true
  | _ => false

/-- Effects that concern the host or the script file. What is told to the log and
the terminal does not. -/
def Effect.isRequest : Effect → Bool
  | .create _ | .write _ | .remove | .call _ | .launch _ _ => true
  | _ => false

/-- What was asked of the host and done to the script file, in order. -/
def requests (effects : List Effect) : List Effect := effects.filter Effect.isRequest

/-- The lines that the user got, in order. -/
def shown (effects : List Effect) : List Effect := effects.filter Effect.isShown

theorem requests_append (first second : List Effect) :
    requests (first ++ second) = requests first ++ requests second :=
  List.filter_append first second

theorem shown_append (first second : List Effect) :
    shown (first ++ second) = shown first ++ shown second :=
  List.filter_append first second

theorem mem_requests {effects : List Effect} {effect : Effect} (hmem : effect ∈ effects)
    (hrequest : effect.isRequest) : effect ∈ requests effects :=
  List.mem_filter.mpr ⟨hmem, hrequest⟩

theorem isRequest_of_isShown {effect : Effect} (hshown : effect.isShown) :
    effect.isRequest = false := by
  cases effect <;> simp [Effect.isShown, Effect.isRequest] at *

/-! ## Jobs -/

theorem Performed.eq_of_outcome {α : Type} {done : Performed α} {outcome : Except Failure α}
    (houtcome : done.outcome = outcome) : done = ⟨done.effects, done.world, outcome⟩ := by
  rw [← houtcome]

namespace Job

variable {α β : Type} {job : Job α} {world world' : World} {effects : List Effect}

theorem bind_of_ok {a : α} (hjob : job world = ⟨effects, world', .ok a⟩) (next : α → Job β) :
    (job >>= next) world =
      ⟨effects ++ (next a world').effects, (next a world').world, (next a world').outcome⟩ := by
  change Job.bind job next world = _
  simp [Job.bind, hjob]

theorem bind_of_error {failure : Failure} (hjob : job world = ⟨effects, world', .error failure⟩)
    (next : α → Job β) : (job >>= next) world = ⟨effects, world', .error failure⟩ := by
  change Job.bind job next world = _
  simp [Job.bind, hjob]

/-- A job that makes no request and takes no time, and ends well after it has shown
some lines. -/
def Shows (job : Job α) (lines : List Effect) (a : α) : Prop :=
  ∀ world, ∃ effects, job world = ⟨effects, world, .ok a⟩ ∧
    requests effects = [] ∧ shown effects = lines

theorem Shows.bind {next : α → Job β} {lines lines' : List Effect} {a : α} {b : β}
    (hjob : Shows job lines a) (hnext : Shows (next a) lines' b) :
    Shows (job >>= next) (lines ++ lines') b := by
  intro world
  obtain ⟨effects, hperformed, hrequests, hshown⟩ := hjob world
  obtain ⟨effects', hperformed', hrequests', hshown'⟩ := hnext world
  refine ⟨effects ++ effects', ?_, ?_, ?_⟩
  · rw [bind_of_ok hperformed, hperformed']
  · rw [requests_append, hrequests, hrequests', List.append_nil]
  · rw [shown_append, hshown, hshown']

theorem shows_pure (a : α) : Shows (pure a : Job α) [] a :=
  fun _ => ⟨[], rfl, rfl, rfl⟩

theorem shows_clock_bind {next : Calendar.Clock → Job β} {lines : List Effect} {b : β}
    (hnext : ∀ clock, Shows (next clock) lines b) : Shows (Job.clock >>= next) lines b :=
  fun world => hnext world.clock world

theorem shows_event (fields : List (String × Json)) : Shows (Job.event fields) [] () :=
  fun world => ⟨[.event world.clock.instant? fields], rfl, rfl, rfl⟩

theorem shows_emitAll {lines : List Effect} (hlines : ∀ line ∈ lines, line.isShown) :
    Shows (Job.emitAll lines) lines () := by
  intro world
  refine ⟨lines, rfl, ?_, List.filter_eq_self.mpr hlines⟩
  simp only [requests, List.filter_eq_nil_iff]
  intro line hmem
  simp [isRequest_of_isShown (hlines line hmem)]

theorem now_bind (next : Option Instant → Job β) (world : World) :
    (Job.now >>= next) world = next world.clock.instant? world := rfl

end Job

namespace Host.Response

variable {α : Type} (response : Response α)

/-- How a rehearsed request fails, if it does. -/
def failure? : Option Failure :=
  match response.outcome with
  | .ok _ => none
  | .error failure => some failure

theorem job_eq (request : Effect) (world : World) :
    response.job request world =
      ⟨[request], { world with clock := world.clock.advance response.millis },
        response.outcome⟩ := by
  cases houtcome : response.outcome <;> simp [job, houtcome] <;> rfl

end Host.Response

namespace Run

theorem shows_announce (debug : Bool) (message : String) :
    (announce debug message).Shows [] () := by
  intro world
  cases debug with
  | false => exact ⟨[.log message], rfl, rfl, rfl⟩
  | true => exact ⟨[.log message, .diagnostic _], rfl, rfl, rfl⟩

theorem shows_relay (debug : Bool) (lines : List String) : (relay debug lines).Shows [] () := by
  intro world
  cases debug with
  | false => exact ⟨[], rfl, rfl, rfl⟩
  | true =>
      refine ⟨lines.map fun line =>
        .diagnostic (Terminal.diagnostic world.clock.instant? .compositor line), rfl, ?_, ?_⟩
      · simp [requests, Effect.isRequest]
      · simp [shown, Effect.isShown]

/-- A report shows the results and then the problems of the run. -/
theorem shows_report (config : Config) (marker : String) (since : Option Instant)
    (journal : String) :
    (report config marker since journal).Shows
      ((Journal.demultiplex journal marker).results.map .output ++
        (Journal.demultiplex journal marker).errors.map .problem)
      ⟨(Journal.demultiplex journal marker).results,
        (Journal.demultiplex journal marker).errors,
        (Journal.demultiplex journal marker).finished⟩ := by
  generalize houtput : Journal.demultiplex journal marker = output
  have hshown : (report config marker since journal).Shows
      ([] ++ ([] ++ (output.results.map .output ++ (output.errors.map .problem ++ []))))
      ⟨output.results, output.errors, output.finished⟩ := by
    unfold report
    rw [houtput]
    refine (shows_announce _ _).bind ((shows_relay _ _).bind
      ((Job.shows_emitAll (by simp [Effect.isShown])).bind
        ((Job.shows_emitAll (by simp [Effect.isShown])).bind ?_)))
    have hclosing (fields : Calendar.Clock → List (String × Json)) (outcome : Outcome) :
        (do let clock ← Job.clock; Job.event (fields clock); return outcome : Job Outcome).Shows
          [] outcome :=
      Job.shows_clock_bind fun clock => (Job.shows_event _).bind (Job.shows_pure outcome)
    dsimp only
    split
    · exact (shows_announce _ _).bind (hclosing _ _)
    · exact hclosing _ _
  simpa using hshown

/-! ## Plans -/

/-- A request and how it fails, if it does. -/
abbrev Planned := Effect × Option Failure

/-- The requests up to the first that fails. That one is the last. -/
def made : List Planned → List Effect
  | [] => []
  | (request, none) :: rest => request :: made rest
  | (request, some _) :: _ => [request]

/-- The failure of the first request that fails. -/
def firstFailure? (plan : List Planned) : Option Failure := plan.findSome? Prod.snd

theorem made_isPrefix (plan : List Planned) : made plan <+: plan.map Prod.fst := by
  induction plan with
  | nil => exact List.prefix_rfl
  | cons planned rest ih =>
      obtain ⟨request, _ | failure⟩ := planned
      · exact List.prefix_cons_inj request |>.mpr ih
      · exact ⟨rest.map Prod.fst, rfl⟩

/-- A job that was performed as planned: it made the requests up to the first that
fails, and failed in the same way without having shown anything. If none fails the
job ends well. -/
structure Follows {α : Type} (plan : List Planned) (done : Performed α) : Prop where
  requests_eq : requests done.effects = made plan
  failed : ∀ failure, firstFailure? plan = some failure →
    done.outcome = .error failure ∧ shown done.effects = []
  succeeded : firstFailure? plan = none → ∃ a, done.outcome = .ok a

section

variable {α β : Type} {job : Job α} {next : α → Job β} {plan : List Planned} {world : World}

theorem follows_nil {lines : List Effect} {a : α} (hjob : job.Shows lines a) :
    Follows [] (job world) := by
  obtain ⟨effects, hperformed, hrequests, -⟩ := hjob world
  rw [hperformed]
  exact ⟨hrequests, by simp [firstFailure?], fun _ => ⟨a, rfl⟩⟩

/-- What is told in between is not part of the plan. -/
theorem Follows.of_shows {a : α} (hjob : job.Shows [] a) (hnext : Follows plan (next a world)) :
    Follows plan ((job >>= next) world) := by
  obtain ⟨effects, hperformed, hrequests, hshown⟩ := hjob world
  rw [Job.bind_of_ok hperformed]
  refine ⟨?_, fun failure hfailure => ?_, hnext.succeeded⟩
  · rw [requests_append, hrequests, List.nil_append]
    exact hnext.requests_eq
  · obtain ⟨houtcome, hnextShown⟩ := hnext.failed failure hfailure
    refine ⟨houtcome, ?_⟩
    rw [shown_append, hshown, List.nil_append]
    exact hnextShown

/-- A request is made, and the plan goes on if it is granted. -/
theorem Follows.of_request {response : Host.Response α} {request : Effect}
    (hrequest : request.isRequest)
    (hnext : ∀ a, response.outcome = .ok a →
      Follows plan (next a { world with clock := world.clock.advance response.millis })) :
    Follows ((request, response.failure?) :: plan) ((response.job request >>= next) world) := by
  have hjob := response.job_eq request world
  have hshown : request.isShown = false := by
    rw [Bool.eq_false_iff]
    intro hshown
    simp [isRequest_of_isShown hshown] at hrequest
  cases houtcome : response.outcome with
  | error failure =>
      rw [houtcome] at hjob
      rw [Job.bind_of_error hjob, Host.Response.failure?, houtcome]
      refine ⟨?_, fun other hother => ?_, fun hnone => ?_⟩
      · simp [requests, made, hrequest]
      · simp only [firstFailure?, List.findSome?_cons, Option.some.injEq] at hother
        simp [shown, hshown, hother]
      · simp [firstFailure?] at hnone
  | ok a =>
      rw [houtcome] at hjob
      rw [Job.bind_of_ok hjob, Host.Response.failure?, houtcome]
      obtain ⟨hrequests, hfailed, hsucceeded⟩ := hnext a houtcome
      refine ⟨?_, fun failure hfailure => ?_, fun hnone => hsucceeded ?_⟩
      · rw [requests_append, hrequests]
        simp [requests, made, hrequest]
      · obtain ⟨hfailure, hnextShown⟩ := hfailed failure (by simpa [firstFailure?] using hfailure)
        refine ⟨hfailure, ?_⟩
        rw [shown_append, hnextShown]
        simp [shown, hshown]
      · simpa [firstFailure?] using hnone

end

/-! ## Runs -/

/-- The requests of a run that executes its script, in order. The script has an id
once it is loaded, and the journal is read from an instant on. -/
def plan (rehearsal : Host.Rehearsal) (text : String) (id : Number) (since : Option Instant) :
    List Planned :=
  [(.write text, rehearsal.write.failure?),
    (.call (.load rehearsal.file.path), rehearsal.load.failure?),
    (.call (.start id), rehearsal.start.failure?),
    (.call (.stop id), rehearsal.stop.failure?),
    (.call (.journal since), rehearsal.journal.failure?)]

theorem follows_execute (config : Config) (rehearsal : Host.Rehearsal) (text : String)
    (world : World) {id : Number}
    (hid : ∀ loaded, rehearsal.load.outcome = .ok loaded → loaded = id) :
    Follows (plan rehearsal text id (world.clock.advance rehearsal.write.millis).instant?)
      (execute config (.rehearsed rehearsal) rehearsal.file text world) := by
  unfold execute plan
  refine Follows.of_request rfl fun _ _ => ?_
  rw [Job.now_bind]
  refine Follows.of_shows (shows_announce _ _) (Follows.of_request rfl fun loaded hloaded => ?_)
  rw [hid loaded hloaded]
  refine Follows.of_shows (shows_announce _ _) (Follows.of_shows (shows_announce _ _) ?_)
  refine Follows.of_request rfl fun _ _ => Follows.of_request rfl fun _ _ => ?_
  exact Follows.of_request rfl fun journal _ => follows_nil (shows_report _ _ _ journal)

section

variable {config : Config} {file : ScriptFile} {tokens : List String}
  {rehearsal : Host.Rehearsal} {script : Script.Compiled}

theorem compileAndExecute_of_error {error : Command.Error}
    (hcompile : Script.compile ⟨file.marker, config.debug, config.kde5⟩ tokens = .error error)
    (host : Host) (world : World) :
    compileAndExecute config host file tokens world = ⟨[], world, .error (.command error)⟩ := by
  unfold compileAndExecute
  rw [hcompile]
  rfl

theorem shows_compileAndExecute_of_dryRun
    (hcompile : Script.compile ⟨file.marker, config.debug, config.kde5⟩ tokens = .ok script)
    (hdry : config.dryRun = true) (host : Host) :
    (compileAndExecute config host file tokens).Shows [.output script.text] ⟨[], [], false⟩ := by
  unfold compileAndExecute
  dsimp only
  rw [hcompile]
  refine (Job.shows_pure script).bind ((Job.shows_event _).bind ((shows_announce _ _).bind ?_))
  rw [if_pos hdry]
  exact fun world => ⟨[.output script.text], rfl, rfl, rfl⟩

theorem follows_compileAndExecute
    (hcompile : Script.compile ⟨rehearsal.file.marker, config.debug, config.kde5⟩ tokens =
      .ok script)
    (hdry : config.dryRun = false) {id : Number}
    (hid : ∀ loaded, rehearsal.load.outcome = .ok loaded → loaded = id) (world : World) :
    Follows (plan rehearsal script.text id (world.clock.advance rehearsal.write.millis).instant?)
      (compileAndExecute config (.rehearsed rehearsal) rehearsal.file tokens world) := by
  unfold compileAndExecute
  rw [hcompile]
  refine Follows.of_shows (Job.shows_pure script) (Follows.of_shows (Job.shows_event _)
    (Follows.of_shows (shows_announce _ _) ?_))
  rw [hdry]
  exact follows_execute config rehearsal script.text world hid

/-- A run is framed by an announcement and the removal of its file. -/
theorem run_rehearsed (config : Config) (rehearsal : Host.Rehearsal) (tokens : List String)
    (world : World) :
    ∃ told, requests told = [] ∧ shown told = [] ∧
      (run config (.rehearsed rehearsal) tokens world).effects =
        told ++ (compileAndExecute config (.rehearsed rehearsal) rehearsal.file tokens
          world).effects ++ [.remove] ∧
      (run config (.rehearsed rehearsal) tokens world).outcome =
        (compileAndExecute config (.rehearsed rehearsal) rehearsal.file tokens world).outcome := by
  obtain ⟨told, htold, hrequests, hshown⟩ :=
    shows_announce config.debug "===== Generate KWin script =====" world
  refine ⟨told, hrequests, hshown, ?_⟩
  unfold run
  rw [Job.bind_of_ok htold, List.append_assoc]
  exact ⟨rfl, rfl⟩

/-- Until the file is removed at the end nothing removes it. -/
theorem remove_not_mem_compileAndExecute (config : Config) (rehearsal : Host.Rehearsal)
    (tokens : List String) (world : World) :
    .remove ∉
      (compileAndExecute config (.rehearsed rehearsal) rehearsal.file tokens world).effects := by
  suffices hrequests : .remove ∉ requests
      (compileAndExecute config (.rehearsed rehearsal) rehearsal.file tokens world).effects by
    exact fun hmem => hrequests (mem_requests hmem rfl)
  cases hcompile : Script.compile ⟨rehearsal.file.marker, config.debug, config.kde5⟩ tokens with
  | error error => simp [compileAndExecute_of_error hcompile, requests]
  | ok script =>
      cases hdry : config.dryRun with
      | true =>
          obtain ⟨effects, hperformed, hnone, -⟩ :=
            shows_compileAndExecute_of_dryRun hcompile hdry (.rehearsed rehearsal) world
          simp [hperformed, hnone]
      | false =>
          -- If loading fails any id will do, since no request uses it.
          obtain ⟨id, hid⟩ : ∃ id, ∀ loaded, rehearsal.load.outcome = .ok loaded → loaded = id := by
            cases rehearsal.load.outcome with
            | error failure => exact ⟨.integer 0, by simp⟩
            | ok loaded => exact ⟨loaded, by simp⟩
          rw [(follows_compileAndExecute hcompile hdry hid world).requests_eq]
          intro hmem
          simpa [plan] using (made_isPrefix _).subset hmem

end

/-- The life of a run, for every command line and everything that the host may do.

Removing the script file is the last effect, and no other effect removes it. If the
commands are refused, or on a dry run, nothing else is asked of anybody. Otherwise
the requests are those of the plan up to the first that fails: the script as it was
compiled is written before the first call, the id is the one that loading gave, and
the journal is read from the instant that the clock showed when the script was
written and not yet loaded. A failure ends the run as it is, and then the user has
been shown nothing. -/
theorem run_lifecycle (config : Config) (rehearsal : Host.Rehearsal) (tokens : List String)
    (world : World) :
    let done := run config (.rehearsed rehearsal) tokens world
    let compiled := Script.compile ⟨rehearsal.file.marker, config.debug, config.kde5⟩ tokens
    (∃ before, done.effects = before ++ [.remove] ∧ .remove ∉ before) ∧
    (∀ error, compiled = .error error →
      requests done.effects = [.remove] ∧ shown done.effects = [] ∧
        done.outcome = .error (.command error)) ∧
    (∀ script, compiled = .ok script → config.dryRun = true →
      requests done.effects = [.remove] ∧ shown done.effects = [.output script.text] ∧
        done.outcome = .ok ⟨[], [], false⟩) ∧
    ∀ script, compiled = .ok script → config.dryRun = false →
      ∀ id, (∀ loaded, rehearsal.load.outcome = .ok loaded → loaded = id) →
        let plan := plan rehearsal script.text id
          (world.clock.advance rehearsal.write.millis).instant?
        requests done.effects = made plan ++ [.remove] ∧
        (∀ failure, firstFailure? plan = some failure →
          done.outcome = .error failure ∧ shown done.effects = []) ∧
        (firstFailure? plan = none → ∃ outcome, done.outcome = .ok outcome) := by
  intro done compiled
  obtain ⟨told, htold, hquiet, heffects, houtcome⟩ := run_rehearsed config rehearsal tokens world
  have hrequests : requests done.effects = requests (compileAndExecute config
      (.rehearsed rehearsal) rehearsal.file tokens world).effects ++ [.remove] := by
    rw [heffects, requests_append, requests_append, htold, List.nil_append]
    rfl
  have hshown : shown done.effects = shown (compileAndExecute config (.rehearsed rehearsal)
      rehearsal.file tokens world).effects := by
    rw [heffects, shown_append, shown_append, hquiet, List.nil_append]
    exact List.append_nil _
  rw [hrequests, hshown, houtcome]
  refine ⟨⟨_, heffects, ?_⟩, ?_, ?_, ?_⟩
  · rw [List.mem_append, not_or]
    refine ⟨fun hmem => ?_, remove_not_mem_compileAndExecute config rehearsal tokens world⟩
    simpa [htold] using mem_requests hmem rfl
  · intro error hcompile
    rw [compileAndExecute_of_error hcompile]
    exact ⟨rfl, rfl, rfl⟩
  · intro script hcompile hdry
    obtain ⟨effects, hperformed, hnone, hlines⟩ :=
      shows_compileAndExecute_of_dryRun hcompile hdry (.rehearsed rehearsal) world
    rw [hperformed]
    exact ⟨by rw [hnone, List.nil_append], hlines, rfl⟩
  · intro script hcompile hdry id hid
    have hfollows := follows_compileAndExecute hcompile hdry hid world
    exact ⟨by rw [hfollows.requests_eq], hfollows.failed, hfollows.succeeded⟩

/-- A rehearsal in which writing and loading take their time, and the journal cannot
be read. -/
def lostJournal : Host.Rehearsal where
  file := ⟨"m", "/tmp/m/script.js"⟩
  write := ⟨.integer 5, .ok ()⟩
  load := ⟨.integer 20, .ok (.integer 7)⟩
  start := ⟨.integer 0, .ok ()⟩
  stop := ⟨.integer 0, .ok ()⟩
  journal := ⟨.integer 0, .error (.reported "lost")⟩

theorem run_lifecycle_lostJournal :
    let config := { Config.default with debug := true }
    let world : World := { clock := some (.integer 1000) }
    requests (run config (.rehearsed lostJournal) ["-x"] world).effects = [.remove] ∧
    requests (run { config with dryRun := true } (.rehearsed lostJournal) [] world).effects =
      [.remove] ∧
    ∃ text, requests (run config (.rehearsed lostJournal) ["getactivewindow"] world).effects =
        [.write text, .call (.load "/tmp/m/script.js"), .call (.start (.integer 7)),
          .call (.stop (.integer 7)), .call (.journal (Instant.ofMillis? 1005)), .remove] ∧
      (run config (.rehearsed lostJournal) ["getactivewindow"] world).outcome =
        .error (.reported "lost") := by
  intro config world
  have hparse : Command.parse ["-x"] = .error (.unexpectedOption "-x") := by
    rw [Command.parse, Command.parseWith]
    rfl
  have hrefused := (run_lifecycle config lostJournal ["-x"] world).2.1 _
    (Script.compile_eq_error_iff.mpr hparse)
  have hdry := (run_lifecycle { config with dryRun := true } lostJournal [] world).2.2.1 _
    (Script.compile_of_parse Script.parse_nil _) rfl
  have hlost := (run_lifecycle config lostJournal ["getactivewindow"] world).2.2.2 _
    (Script.compile_of_parse (Script.parse_cons rfl Script.parse_nil) _) rfl (.integer 7)
    (by rintro loaded ⟨⟩; rfl)
  exact ⟨hrefused.1, hdry.1, _, hlost.1, (hlost.2.1 _ rfl).1⟩

end Run

end WindowScript
