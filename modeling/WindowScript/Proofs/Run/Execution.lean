/-
# Runs through helper programs

The host at work loads, starts, stops and reads back a script by starting four
programs, one after the other. The program that is started as number `i` plays the
reply at position `i`, so what the requests bring back can be told from the list of
replies alone, without performing anything: the first request that fails decides the
failure, and if none fails the last reply is the journal.

A run does what is told that way. It shows the output in the journal if it gets so
far, and nothing at all if it fails.
-/

import WindowScript.Proofs.Helper.Requests

namespace WindowScript

open WindowScript.Calendar (Instant)

/-! ## Replies by position -/

namespace World

/-- The world when some programs have been started. -/
def after (world : World) (count : Nat) : World :=
  { world with replies := world.replies.drop count }

/-- The program that is started as number `i` exists, exits with code 0 and writes the
given text to its output. -/
def Answers (world : World) (i : Nat) (program text : String) : Prop :=
  program ∉ world.missing ∧ (world.replies.getD i {}).result.exitCode = 0 ∧
    (world.replies.getD i {}).result.stdout = text

/-- What the program that is started as number `i` answers to a request. -/
def answer (world : World) (i : Nat) (launch : Helper.Launch) (blame : Helper.Result → Failure) :
    Except Failure String :=
  if launch.file ∈ world.missing then .error (.missingProgram launch.file)
  else (world.replies.getD i {}).result.answer blame

variable {world : World} {i : Nat} {launch : Helper.Launch} {blame : Helper.Result → Failure}

theorem answer_eq_ok_iff {text : String} :
    world.answer i launch blame = .ok text ↔ world.Answers i launch.file text := by
  unfold answer Answers Helper.Result.answer
  generalize (world.replies.getD i {}).result = result
  by_cases hmissing : launch.file ∈ world.missing
  · simp [hmissing]
  · by_cases hcode : result.exitCode = 0
    · simp [hmissing, hcode]
    · simp [hmissing, hcode]

theorem headD_replies_after (world : World) (i : Nat) :
    (world.after i).replies.headD {} = world.replies.getD i {} := by
  rw [after, List.headD_eq_head?_getD, List.head?_drop, List.getD_eq_getElem?_getD]

theorem after_succ (world : World) (i : Nat) :
    { world.after i with replies := (world.after i).replies.tail } = world.after (i + 1) := by
  simp [after, List.tail_drop]

end World

/-! ## Silent jobs -/

namespace Job

/-- How a job ends that is performed when `first` programs have been started and shows
nothing. If it ends well then `last` programs have been started. -/
structure Settles {α : Type} (world : World) (first last : Nat) (job : Job α)
    (result : Except Failure α) : Prop where
  outcome_eq : (job (world.after first)).outcome = result
  shown_eq : shown (job (world.after first)).effects = []
  world_eq : ∀ a, result = .ok a → (job (world.after first)).world = world.after last

variable {α β : Type} {world : World} {first last final : Nat} {job : Job α} {next : α → Job β}

theorem Settles.eq_of_ok {a : α} (hjob : Settles world first last job (.ok a)) :
    job (world.after first) = ⟨(job (world.after first)).effects, world.after last, .ok a⟩ := by
  rw [← hjob.outcome_eq, ← hjob.world_eq a rfl]

theorem Settles.eq_of_error {failure : Failure}
    (hjob : Settles world first last job (.error failure)) :
    job (world.after first) = ⟨(job (world.after first)).effects,
      (job (world.after first)).world, .error failure⟩ :=
  Performed.eq_of_outcome hjob.outcome_eq

theorem Settles.bind {result : Except Failure α} {result' : α → Except Failure β}
    (hjob : Settles world first last job result)
    (hnext : ∀ a, Settles world last final (next a) (result' a)) :
    Settles world first final (job >>= next) (result >>= result') := by
  cases result with
  | error failure =>
      refine ⟨?_, ?_, ?_⟩
      · rw [bind_of_error hjob.eq_of_error]
        rfl
      · rw [bind_of_error hjob.eq_of_error]
        exact hjob.shown_eq
      · rintro b ⟨⟩
  | ok a =>
      refine ⟨?_, ?_, fun b hb => ?_⟩
      · rw [bind_of_ok hjob.eq_of_ok]
        exact (hnext a).outcome_eq
      · rw [bind_of_ok hjob.eq_of_ok, shown_append, hjob.shown_eq, (hnext a).shown_eq,
          List.append_nil]
      · rw [bind_of_ok hjob.eq_of_ok]
        exact (hnext a).world_eq b hb

theorem Shows.settles {a : α} (hjob : Shows job [] a) (world : World) (count : Nat) :
    Settles world count count job (.ok a) := by
  obtain ⟨effects, hperformed, -, hshown⟩ := hjob (world.after count)
  refine ⟨?_, ?_, fun b _ => ?_⟩
  · rw [hperformed]
  · rw [hperformed]
    exact hshown
  · rw [hperformed]

theorem settles_now (world : World) (count : Nat) :
    Settles world count count Job.now (.ok world.clock.instant?) :=
  ⟨rfl, rfl, fun _ _ => rfl⟩

theorem settles_ofExcept (world : World) (count : Nat) (result : Except Failure α) :
    Settles world count count (Job.ofExcept result) result := by
  cases result with
  | error failure => exact ⟨rfl, rfl, fun _ _ => rfl⟩
  | ok a => exact ⟨rfl, rfl, fun _ _ => rfl⟩

theorem shown_map_log (texts : List String) : shown (texts.map .log) = [] := by
  simp [shown, Effect.isShown]

/-- A request is answered by the reply whose turn it is. -/
theorem Asks.settles {launch : Helper.Launch} {blame : Helper.Result → Failure}
    {job : Job String} (hjob : Asks launch blame job) (world : World) (count : Nat) :
    Settles world count (count + 1) job (world.answer count launch blame) := by
  unfold World.answer
  by_cases hmissing : launch.file ∈ world.missing
  · obtain ⟨texts, hperformed⟩ := hjob.missing (world.after count) hmissing
    rw [if_pos hmissing]
    refine ⟨?_, ?_, ?_⟩
    · rw [hperformed]
    · rw [hperformed, shown_map_log]
    · rintro a ⟨⟩
  · obtain ⟨before, after, hperformed⟩ := hjob.started (world.after count) hmissing
    rw [if_neg hmissing]
    refine ⟨?_, ?_, fun a _ => ?_⟩
    · rw [hperformed, World.headD_replies_after]
    · rw [hperformed, shown_append, shown_map_log, List.nil_append]
      exact shown_map_log after
    · rw [hperformed]
      exact world.after_succ count

end Job

/-! ## Requests of a run -/

theorem bind_eq_ok_iff {ε α β : Type} {x : Except ε α} {f : α → Except ε β} {b : β} :
    (x >>= f) = .ok b ↔ ∃ a, x = .ok a ∧ f a = .ok b := by
  cases x with
  | error error => simp [bind, Except.bind]
  | ok a => simp [bind, Except.bind]

namespace Compositor.Client

variable (client : Client) (world : World) (i : Nat)

/-- What the compositor answers to the call that is made as number `i`. -/
def answer (objectPath method : String) (args : List String) : Except Failure String :=
  world.answer i (client.launch objectPath method args) (client.blame objectPath method args)

/-- The id of a script that is loaded by the call number `i`. -/
def loaded (path : String) : Except Failure Number := do
  let reply ← client.answer world i scriptingPath loadMethod [path]
  loadedId path reply

/-- Whether a call number `i` that has no answer is granted. -/
def granted (objectPath method : String) : Except Failure Unit := do
  let _ ← client.answer world i objectPath method []
  return ()

variable {client world i}

theorem loaded_eq_ok_iff {path : String} {id : Number} :
    client.loaded world i path = .ok id ↔ ∃ text, world.Answers i client.program text ∧
      ∃ n : Int, firstTuple? text.toList = some n ∧ 0 ≤ n ∧ Number.ofInt n = id := by
  simp only [loaded, answer, bind_eq_ok_iff, World.answer_eq_ok_iff, loadedId_eq_ok_iff]
  rfl

theorem granted_eq_ok_iff {objectPath method : String} {u : Unit} :
    client.granted world i objectPath method = .ok u ↔
      ∃ text, world.Answers i client.program text := by
  simp only [granted, answer, bind_eq_ok_iff, World.answer_eq_ok_iff, pure, Except.pure, and_true]
  rfl

variable (client world i)

theorem settles_load (path : String) :
    (client.load path).Settles world i (i + 1) (client.loaded world i path) := by
  refine ((client.asks_call _ _ _).settles world i).bind fun reply => ?_
  have hevent (id : Number) : (do
      Job.event [("event", .string "script_loaded"), ("scriptId", .number id)]
      return id : Job Number).Settles world (i + 1) (i + 1) (.ok id) :=
    ((Job.shows_event _).bind (Job.shows_pure id)).settles world (i + 1)
  have hloaded := (Job.settles_ofExcept world (i + 1) (loadedId path reply)).bind hevent
  have hlast : (loadedId path reply >>= fun id => Except.ok id) = loadedId path reply := by
    cases loadedId path reply <;> rfl
  rwa [hlast] at hloaded

theorem settles_granted (objectPath method : String) :
    (do let _ ← client.call objectPath method []; return () : Job Unit).Settles world i (i + 1)
      (client.granted world i objectPath method) :=
  ((client.asks_call _ _ _).settles world i).bind fun _ =>
    (Job.shows_pure ()).settles world (i + 1)

end Compositor.Client

namespace Run

/-- The output that a run gets back, told from the replies: the script is loaded,
started and stopped by the first three programs, and the fourth gives the journal. -/
def collected (client : Compositor.Client) (file : ScriptFile) (world : World) :
    Except Failure Journal.Output := do
  let id ← client.loaded world 0 file.path
  client.granted world 1 (Compositor.scriptPath id) (Compositor.scriptInterface ++ ".run")
  client.granted world 2 (Compositor.scriptPath id) (Compositor.scriptInterface ++ ".stop")
  let since := world.clock.instant?
  let journal ← world.answer 3 (Journal.launch Journal.program since)
    (Journal.blame Journal.program since)
  return Journal.demultiplex journal file.marker

/-- A run gets output back exactly if all four programs exist and exit with code 0, and
the first answers with an id that is not negative. -/
theorem collected_eq_ok_iff {client : Compositor.Client} {file : ScriptFile} {world : World}
    {output : Journal.Output} :
    collected client file world = .ok output ↔
      ∃ loaded journal, world.Answers 0 client.program loaded ∧
        (∃ n : Int, Compositor.firstTuple? loaded.toList = some n ∧ 0 ≤ n) ∧
        (∃ text, world.Answers 1 client.program text) ∧
        (∃ text, world.Answers 2 client.program text) ∧
        world.Answers 3 Journal.program journal ∧
        Journal.demultiplex journal file.marker = output := by
  simp only [collected, bind_eq_ok_iff, Compositor.Client.loaded_eq_ok_iff,
    Compositor.Client.granted_eq_ok_iff, World.answer_eq_ok_iff, pure, Except.pure, Except.ok.injEq]
  constructor
  · rintro ⟨id, ⟨loaded, hload, n, htuple, hsign, -⟩, _, hstart, _, hstop, journal, hjournal,
      houtput⟩
    exact ⟨loaded, journal, hload, ⟨n, htuple, hsign⟩, hstart, hstop, hjournal, houtput⟩
  · rintro ⟨loaded, journal, hload, ⟨n, htuple, hsign⟩, hstart, hstop, hjournal, houtput⟩
    exact ⟨_, ⟨loaded, hload, n, htuple, hsign, rfl⟩, (), hstart, (), hstop, journal, hjournal,
      houtput⟩

/-- The programs that carry out a run have nothing to complain about: those that load,
start and stop the script and the one that reads the journal all exist and exit with code
0, the first answers with an id that is not negative, and in the journal there is no
problem of the marker. -/
def Flawless (world : World) (marker : String) : Prop :=
  ∃ loaded journal, world.Answers 0 "gdbus" loaded ∧
    (∃ n : Int, Compositor.firstTuple? loaded.toList = some n ∧ 0 ≤ n) ∧
    (∃ text, world.Answers 1 "gdbus" text) ∧ (∃ text, world.Answers 2 "gdbus" text) ∧
    world.Answers 3 "journalctl" journal ∧ (Journal.demultiplex journal marker).errors = []

theorem exists_collected_iff_flawless (timeout : Number) (file : ScriptFile) (world : World) :
    (∃ output, collected { timeout } file world = .ok output ∧ output.errors = []) ↔
      Flawless world file.marker := by
  constructor
  · rintro ⟨output, hcollected, herrors⟩
    obtain ⟨loaded, journal, hload, hid, hstart, hstop, hjournal, rfl⟩ :=
      collected_eq_ok_iff.mp hcollected
    exact ⟨loaded, journal, hload, hid, hstart, hstop, hjournal, herrors⟩
  · rintro ⟨loaded, journal, hload, hid, hstart, hstop, hjournal, herrors⟩
    exact ⟨_, collected_eq_ok_iff.mpr ⟨loaded, journal, hload, hid, hstart, hstop, hjournal, rfl⟩,
      herrors⟩

/-- A run that ended as told: it brought back the output and showed it, or it failed and
showed nothing. -/
structure Ends (result : Except Failure Journal.Output) (done : Performed Outcome) : Prop where
  outcome_eq : done.outcome =
    result.map fun output => ⟨output.results, output.errors, output.finished⟩
  shown_of_ok : ∀ output, result = .ok output →
    shown done.effects = output.results.map .output ++ output.errors.map .problem
  shown_of_error : ∀ failure, result = .error failure → shown done.effects = []

variable {α : Type} {world : World} {first last : Nat} {job : Job α} {next : α → Job Outcome}

/-- What is told in between changes nothing. -/
theorem Ends.of_quiet {a : α} {result : Except Failure Journal.Output}
    (hjob : job.Settles world first last (.ok a))
    (hnext : Ends result (next a (world.after last))) :
    Ends result ((job >>= next) (world.after first)) := by
  rw [Job.bind_of_ok hjob.eq_of_ok]
  refine ⟨hnext.outcome_eq, fun output hok => ?_, fun failure herror => ?_⟩
  · rw [shown_append, hjob.shown_eq, List.nil_append]
    exact hnext.shown_of_ok output hok
  · rw [shown_append, hjob.shown_eq, List.nil_append]
    exact hnext.shown_of_error failure herror

theorem Ends.of_settles {result : Except Failure α}
    {result' : α → Except Failure Journal.Output} (hjob : job.Settles world first last result)
    (hnext : ∀ a, Ends (result' a) (next a (world.after last))) :
    Ends (result >>= result') ((job >>= next) (world.after first)) := by
  cases result with
  | ok a => exact Ends.of_quiet hjob (hnext a)
  | error failure =>
      rw [Job.bind_of_error hjob.eq_of_error]
      refine ⟨rfl, ?_, fun _ _ => hjob.shown_eq⟩
      rintro output ⟨⟩

theorem ends_report (config : Config) (marker : String) (since : Option Instant)
    (journal : String) (world : World) :
    Ends (.ok (Journal.demultiplex journal marker)) (report config marker since journal world) := by
  obtain ⟨effects, hperformed, -, hshown⟩ := shows_report config marker since journal world
  rw [hperformed]
  refine ⟨rfl, ?_, ?_⟩
  · rintro output ⟨⟩
    exact hshown
  · rintro failure ⟨⟩

/-- Executing a script through the helper programs ends as the replies tell. -/
theorem ends_execute (config : Config) (file : ScriptFile) (timeout : Number) (text : String)
    (world : World) :
    Ends (collected { timeout } file world)
      (execute config (.ofPrograms file timeout) file text world) := by
  have hwrite : (Job.emit (.write text)).Settles world 0 0 (.ok ()) := ⟨rfl, rfl, fun _ _ => rfl⟩
  have hannounce (message : String) (count : Nat) :=
    (shows_announce config.debug message).settles world count
  change Ends _ (execute config (.ofPrograms file timeout) file text (world.after 0))
  unfold execute
  refine Ends.of_quiet hwrite (Ends.of_quiet (Job.settles_now world 0)
    (Ends.of_quiet (hannounce _ 0) ?_))
  refine Ends.of_settles (Compositor.Client.settles_load _ world 0 file.path) fun id => ?_
  refine Ends.of_quiet (hannounce _ 1) (Ends.of_quiet (hannounce _ 1) ?_)
  refine Ends.of_settles (Compositor.Client.settles_granted _ world 1 _ _) fun _ =>
    Ends.of_settles (Compositor.Client.settles_granted _ world 2 _ _) fun _ => ?_
  exact Ends.of_settles ((Journal.asks_read _ _).settles world 3) fun journal =>
    ends_report config file.marker _ journal (world.after 4)

theorem ends_compileAndExecute {config : Config} {file : ScriptFile} {tokens : List String}
    {script : Script.Compiled}
    (hcompile : Script.compile ⟨file.marker, config.debug, config.kde5⟩ tokens = .ok script)
    (hdry : config.dryRun = false) (timeout : Number) (world : World) :
    Ends (collected { timeout } file world)
      (compileAndExecute config (.ofPrograms file timeout) file tokens world) := by
  change Ends _ (compileAndExecute config _ file tokens (world.after 0))
  unfold compileAndExecute
  rw [hcompile]
  refine Ends.of_quiet ((Job.shows_pure script).settles world 0)
    (Ends.of_quiet ((Job.shows_event _).settles world 0)
      (Ends.of_quiet ((shows_announce _ _).settles world 0) ?_))
  rw [hdry]
  exact ends_execute config file timeout script.text world

end Run

end WindowScript
