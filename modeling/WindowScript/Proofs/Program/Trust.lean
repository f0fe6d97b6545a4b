/-
# What helper programs are trusted with

A helper program is heard through its output and its exit code. What it writes to its
error output is kept in the run log, and quoted in the failure if the program fails, but
nothing is decided by it. So two runs whose replies differ in their error outputs alone
do the same, step by step: they start the same programs, show the same lines and end in
the same way, up to what a failure quotes.

The argument relates two performances of one job. Each part of a run keeps the relation,
and so does putting parts together.
-/

import Mathlib.Data.List.Forall2
import WindowScript.Proofs.Program.Status

namespace WindowScript

/-! ## What is compared -/

/-- Replies that differ in their error outputs at most. -/
structure Helper.Reply.Agrees (first second : Helper.Reply) : Prop where
  stdout_eq : first.stdout = second.stdout
  ending_eq : first.ending = second.ending

/-- A transport failure without what the error output said. -/
def Transport.withoutStderr : Transport → Transport
  | .callFailed method command result => .callFailed method command { result with stderr := "" }
  | .journalFailed command result => .journalFailed command { result with stderr := "" }
  | error => error

/-- A failure without what the error output of a helper program said. -/
def Failure.withoutStderr : Failure → Failure
  | .transport error => .transport error.withoutStderr
  | failure => failure

/-- Texts for the run log. -/
def Effect.isLog : Effect → Bool
  | .log _ => true
  | _ => false

/-- Everything but the texts for the run log. -/
def unlogged (effects : List Effect) : List Effect := effects.filter fun effect => !effect.isLog

/-- The program that is started by an effect. -/
def Effect.launch? : Effect → Option Helper.Launch
  | .launch program _ => some program
  | _ => none

/-- The programs that are started, in order. -/
def launches (effects : List Effect) : List Helper.Launch := effects.filterMap Effect.launch?

/-- What an effect writes to the error output. -/
def Effect.printed? : Effect → Option String
  | .problem line => some (line ++ "\n")
  | .diagnostic text => some (text ++ "\n")
  | _ => none

theorem unlogged_append (first second : List Effect) :
    unlogged (first ++ second) = unlogged first ++ unlogged second :=
  List.filter_append first second

theorem launches_append (first second : List Effect) :
    launches (first ++ second) = launches first ++ launches second :=
  List.filterMap_append

theorem unlogged_map_log (texts : List String) : unlogged (texts.map .log) = [] := by
  simp [unlogged, Effect.isLog]

theorem launches_map_log (texts : List String) : launches (texts.map .log) = [] := by
  simp [launches, Effect.launch?]

/-- What is picked from effects does not depend on the run log. -/
theorem filterMap_unlogged {α : Type} {pick : Effect → Option α}
    (hlog : ∀ text, pick (.log text) = none) (effects : List Effect) :
    (unlogged effects).filterMap pick = effects.filterMap pick := by
  rw [unlogged, List.filterMap_filter]
  congr 1
  funext effect
  cases effect with
  | log text => exact (hlog text).symm
  | _ => rfl

section

variable {first second : List Effect} (hsame : unlogged first = unlogged second)

include hsame

theorem launches_eq_of_unlogged : launches first = launches second := by
  rw [launches, launches, ← filterMap_unlogged (fun _ => rfl) first, hsame,
    filterMap_unlogged fun _ => rfl]

theorem outputs_eq_of_unlogged : outputs first = outputs second := by
  rw [outputs, outputs, ← filterMap_unlogged (fun _ => rfl) first, hsame,
    filterMap_unlogged fun _ => rfl]

theorem printed_eq_of_unlogged :
    first.filterMap Effect.printed? = second.filterMap Effect.printed? := by
  rw [← filterMap_unlogged (fun _ => rfl) first, hsame, filterMap_unlogged fun _ => rfl]

end

/-- Worlds that differ in the error outputs of the replies at most. -/
structure World.Agrees (first second : World) : Prop where
  clock_eq : first.clock = second.clock
  environment_eq : first.environment = second.environment
  missing_eq : first.missing = second.missing
  replies : List.Forall₂ Helper.Reply.Agrees first.replies second.replies

/-! ## Jobs that trust the output and the exit code -/

/-- Two performances of a job, the first of which found the given replies. They have the
same effects up to the run log and the same outcome up to the error output in it. The
outcome is the very same if all the programs that were started exited with code 0. -/
structure Performed.Alike {α : Type} (replies : List Helper.Reply) (first second : Performed α) :
    Prop where
  unlogged_eq : unlogged first.effects = unlogged second.effects
  world : first.world.Agrees second.world
  replies_eq : first.world.replies = replies.drop (launches first.effects).length
  kind_eq : first.outcome.mapError Failure.withoutStderr =
    second.outcome.mapError Failure.withoutStderr
  outcome_eq : (∀ reply ∈ replies.take (launches first.effects).length, reply.ending = .exit 0) →
    first.outcome = second.outcome

/-- Both performances fail, or both end with the same value. -/
theorem Performed.Alike.both {α : Type} {replies : List Helper.Reply} {first second : Performed α}
    (halike : first.Alike replies second) :
    (∃ failure failure', first.outcome = .error failure ∧ second.outcome = .error failure') ∨
      ∃ a, first.outcome = .ok a ∧ second.outcome = .ok a := by
  have hkind := halike.kind_eq
  cases hfirst : first.outcome with
  | error failure =>
      cases hsecond : second.outcome with
      | error failure' => exact .inl ⟨failure, failure', rfl, rfl⟩
      | ok a => simp [hfirst, hsecond, Except.mapError] at hkind
  | ok a =>
      cases hsecond : second.outcome with
      | error failure' => simp [hfirst, hsecond, Except.mapError] at hkind
      | ok a' =>
          obtain rfl : a = a' := by simpa [hfirst, hsecond, Except.mapError] using hkind
          exact .inr ⟨a, rfl, rfl⟩

namespace Job

variable {α β : Type}

/-- A job that decides nothing by the error outputs of helper programs. -/
def Trusts (job : Job α) : Prop :=
  ∀ first second : World, first.Agrees second →
    (job first).Alike first.replies (job second)

/-- A job that starts no program and asks for the time at most. -/
theorem trusts_of_clock {job : Job α} (effects : Calendar.Clock → List Effect)
    (outcome : Calendar.Clock → Except Failure α)
    (hlaunches : ∀ clock, launches (effects clock) = [])
    (hjob : ∀ world, job world = ⟨effects world.clock, world, outcome world.clock⟩) :
    job.Trusts := by
  intro first second hworlds
  rw [hjob first, hjob second, ← hworlds.clock_eq]
  refine ⟨rfl, hworlds, ?_, rfl, fun _ => rfl⟩
  rw [hlaunches]
  rfl

theorem trusts_pure (a : α) : (pure a : Job α).Trusts :=
  trusts_of_clock (fun _ => []) (fun _ => .ok a) (fun _ => rfl) fun _ => rfl

theorem trusts_ofExcept (result : Except Failure α) : (Job.ofExcept result).Trusts := by
  refine trusts_of_clock (fun _ => []) (fun _ => result) (fun _ => rfl) fun world => ?_
  cases result <;> rfl

theorem trusts_clock : Job.clock.Trusts :=
  trusts_of_clock (fun _ => []) .ok (fun _ => rfl) fun _ => rfl

theorem trusts_now : Job.now.Trusts :=
  trusts_of_clock (fun _ => []) (fun clock => .ok clock.instant?) (fun _ => rfl) fun _ => rfl

theorem trusts_event (fields : List (String × Json)) : (Job.event fields).Trusts :=
  trusts_of_clock (fun clock => [.event clock.instant? fields]) (fun _ => .ok ()) (fun _ => rfl)
    fun _ => rfl

theorem trusts_emitAll {effects : List Effect} (hlaunches : launches effects = []) :
    (Job.emitAll effects).Trusts :=
  trusts_of_clock (fun _ => effects) (fun _ => .ok ()) (fun _ => hlaunches) fun _ => rfl

theorem trusts_emit {effect : Effect} (hlaunch : effect.launch? = none) :
    (Job.emit effect).Trusts :=
  trusts_emitAll (by simp [launches, hlaunch])

theorem Trusts.ensuring {job : Job α} (hjob : job.Trusts) {effect : Effect}
    (hlaunch : effect.launch? = none) : (job.ensuring effect).Trusts := by
  intro first second hworlds
  obtain ⟨hunlogged, hworld, hreplies, hkind, houtcome⟩ := hjob first second hworlds
  have hlaunches : launches ((job first).effects ++ [effect]) = launches (job first).effects := by
    simp [launches, hlaunch]
  refine ⟨?_, hworld, ?_, hkind, ?_⟩
  · rw [Job.ensuring, Job.ensuring, unlogged_append, unlogged_append, hunlogged]
  · rw [Job.ensuring, hlaunches]
    exact hreplies
  · rw [Job.ensuring, hlaunches]
    exact houtcome

theorem Trusts.bind {job : Job α} {next : α → Job β} (hjob : job.Trusts)
    (hnext : ∀ a, (next a).Trusts) : (job >>= next).Trusts := by
  intro first second hworlds
  have hdone := hjob first second hworlds
  obtain ⟨failure, failure', hfirst, hsecond⟩ | ⟨a, hfirst, hsecond⟩ := hdone.both
  · rw [bind_of_error (Performed.eq_of_outcome hfirst),
      bind_of_error (Performed.eq_of_outcome hsecond)]
    obtain ⟨hunlogged, hworld, hreplies, hkind, houtcome⟩ := hdone
    rw [hfirst, hsecond] at hkind houtcome
    refine ⟨hunlogged, hworld, hreplies, ?_, fun hexits => ?_⟩
    · exact congrArg Except.error (Except.error.inj hkind)
    · rw [Except.error.inj (houtcome hexits)]
  · rw [bind_of_ok (Performed.eq_of_outcome hfirst), bind_of_ok (Performed.eq_of_outcome hsecond)]
    have hrest := hnext a _ _ hdone.world
    refine ⟨?_, hrest.world, ?_, hrest.kind_eq, fun hexits => ?_⟩
    · rw [unlogged_append, unlogged_append, hdone.unlogged_eq, hrest.unlogged_eq]
    · rw [hrest.replies_eq, hdone.replies_eq, List.drop_drop, launches_append, List.length_append]
    · refine hrest.outcome_eq fun reply hreply => hexits reply ?_
      rw [launches_append, List.length_append, List.take_add, ← hdone.replies_eq]
      exact List.mem_append_right _ hreply

end Job

/-! ## Requests -/

namespace Helper

variable {first second : Reply}

/-- Failures that are told apart by the exit code and the output alone, up to what they quote. -/
def Blames (blame : Result → Failure) : Prop :=
  ∀ first second : Result, first.exitCode = second.exitCode → first.stdout = second.stdout →
    (blame first).withoutStderr = (blame second).withoutStderr

theorem Reply.Agrees.refl (reply : Reply) : reply.Agrees reply := ⟨rfl, rfl⟩

theorem Reply.Agrees.exitCode_eq (hreplies : first.Agrees second) :
    first.result.exitCode = second.result.exitCode :=
  congrArg Ending.code hreplies.ending_eq

theorem Reply.Agrees.resultStdout_eq (hreplies : first.Agrees second) :
    first.result.stdout = second.result.stdout :=
  congrArg (fun bytes => String.ofList (Text.Utf8.decode bytes)) hreplies.stdout_eq

variable {blame : Result → Failure}

theorem Reply.Agrees.answer_kind (hreplies : first.Agrees second) (hblame : Blames blame) :
    (first.result.answer blame).mapError Failure.withoutStderr =
      (second.result.answer blame).mapError Failure.withoutStderr := by
  unfold Result.answer
  rw [← hreplies.exitCode_eq, ← hreplies.resultStdout_eq]
  split
  · rfl
  · exact congrArg Except.error (hblame _ _ hreplies.exitCode_eq hreplies.resultStdout_eq)

theorem Reply.Agrees.answer_eq (hreplies : first.Agrees second) (hexit : first.ending = .exit 0) :
    first.result.answer blame = second.result.answer blame := by
  have hcode : first.result.exitCode = 0 := congrArg Ending.code hexit
  rw [Result.answer, Result.answer, if_pos hcode, ← hreplies.exitCode_eq, if_pos hcode,
    hreplies.resultStdout_eq]

variable {replies replies' : List Reply}

theorem agrees_headD (hreplies : List.Forall₂ Reply.Agrees replies replies') :
    (replies.headD {}).Agrees (replies'.headD {}) := by
  cases hreplies with
  | nil => exact .refl _
  | cons hhead _ => exact hhead

theorem agrees_tail (hreplies : List.Forall₂ Reply.Agrees replies replies') :
    List.Forall₂ Reply.Agrees replies.tail replies'.tail := by
  cases hreplies with
  | nil => exact .nil
  | cons _ htail => exact htail

end Helper

/-- A request takes the output for an answer and the exit code for a verdict. -/
theorem Job.Asks.trusts {launch : Helper.Launch} {blame : Helper.Result → Failure}
    {job : Job String} (hjob : Job.Asks launch blame job) (hblame : Helper.Blames blame) :
    job.Trusts := by
  intro first second hworlds
  have hhead := Helper.agrees_headD hworlds.replies
  by_cases hmissing : launch.file ∈ first.missing
  · obtain ⟨texts, hfirst⟩ := hjob.missing first hmissing
    obtain ⟨texts', hsecond⟩ := hjob.missing second (hworlds.missing_eq ▸ hmissing)
    rw [hfirst, hsecond]
    refine ⟨?_, hworlds, ?_, rfl, fun _ => rfl⟩
    · rw [unlogged_map_log, unlogged_map_log]
    · rw [launches_map_log]
      rfl
  · obtain ⟨before, after, hfirst⟩ := hjob.started first hmissing
    obtain ⟨before', after', hsecond⟩ := hjob.started second (hworlds.missing_eq ▸ hmissing)
    have hunlogged (before after : List String) (environment : Helper.Environment) :
        unlogged (before.map .log ++ .launch launch environment :: after.map .log) =
          [.launch launch environment] := by
      rw [unlogged_append, unlogged_map_log]
      exact congrArg (.launch launch environment :: ·) (unlogged_map_log after)
    have hlaunches (environment : Helper.Environment) :
        launches (before.map .log ++ .launch launch environment :: after.map .log) = [launch] := by
      rw [launches_append, launches_map_log]
      exact congrArg (launch :: ·) (launches_map_log after)
    rw [hfirst, hsecond]
    refine ⟨?_, ⟨hworlds.clock_eq, hworlds.environment_eq, hworlds.missing_eq,
      Helper.agrees_tail hworlds.replies⟩, ?_, hhead.answer_kind hblame, fun hexits => ?_⟩
    · rw [hunlogged, hunlogged, hworlds.environment_eq]
    · rw [hlaunches, List.length_singleton, List.drop_one]
    · rw [hlaunches] at hexits
      refine hhead.answer_eq ?_
      cases hreplies : first.replies with
      | nil => rfl
      | cons reply rest => exact hexits reply (by simp [hreplies])

namespace Compositor.Client

variable (client : Client)

theorem trusts_call (objectPath method : String) (args : List String) :
    (client.call objectPath method args).Trusts := by
  refine (client.asks_call objectPath method args).trusts fun _ _ hcode hstdout => ?_
  simp [blame, Failure.withoutStderr, Transport.withoutStderr, hcode, hstdout]

theorem trusts_load (path : String) : (client.load path).Trusts :=
  (client.trusts_call _ _ _).bind fun _ => (Job.trusts_ofExcept _).bind fun id =>
    (Job.trusts_event _).bind fun _ => Job.trusts_pure id

theorem trusts_start (id : Number) : (client.start id).Trusts :=
  (client.trusts_call _ _ _).bind fun _ => Job.trusts_pure ()

theorem trusts_stop (id : Number) : (client.stop id).Trusts :=
  (client.trusts_call _ _ _).bind fun _ => Job.trusts_pure ()

end Compositor.Client

theorem Journal.trusts_read (file : String) (since : Option Calendar.Instant) :
    (Journal.read file since).Trusts := by
  refine (Journal.asks_read file since).trusts fun _ _ hcode hstdout => ?_
  simp [blame, Failure.withoutStderr, Transport.withoutStderr, hcode, hstdout]

/-! ## Runs -/

namespace Run

theorem trusts_announce (debug : Bool) (message : String) : (announce debug message).Trusts := by
  refine (Job.trusts_emit rfl).bind fun _ => ?_
  cases debug with
  | false => exact Job.trusts_pure ()
  | true => exact Job.trusts_now.bind fun _ => Job.trusts_emit rfl

theorem trusts_relay (debug : Bool) (lines : List String) : (relay debug lines).Trusts := by
  cases debug with
  | false => exact Job.trusts_pure ()
  | true =>
      exact Job.trusts_now.bind fun _ => Job.trusts_emitAll (by simp [launches, Effect.launch?])

theorem trusts_report (config : Config) (marker : String) (since : Option Calendar.Instant)
    (journal : String) : (report config marker since journal).Trusts := by
  unfold report
  refine (trusts_announce _ _).bind fun _ => (trusts_relay _ _).bind fun _ =>
    (Job.trusts_emitAll (by simp [launches, Effect.launch?])).bind fun _ =>
      (Job.trusts_emitAll (by simp [launches, Effect.launch?])).bind fun _ => ?_
  have hclosing (fields : Calendar.Clock → List (String × Json)) (outcome : Outcome) :
      (do let clock ← Job.clock; Job.event (fields clock); return outcome : Job Outcome).Trusts :=
    Job.trusts_clock.bind fun _ => (Job.trusts_event _).bind fun _ => Job.trusts_pure outcome
  dsimp only
  split
  · exact (trusts_announce _ _).bind fun _ => hclosing _ _
  · exact hclosing _ _

theorem trusts_execute (config : Config) (made file : ScriptFile) (timeout : Number)
    (text : String) : (execute config (.ofPrograms made timeout) file text).Trusts := by
  unfold execute
  refine Job.Trusts.bind (Job.trusts_emit rfl) fun _ => Job.trusts_now.bind fun since => ?_
  refine (trusts_announce _ _).bind fun _ => (Compositor.Client.trusts_load _ _).bind fun id => ?_
  refine (trusts_announce _ _).bind fun _ => (trusts_announce _ _).bind fun _ => ?_
  refine (Compositor.Client.trusts_start _ id).bind fun _ =>
    (Compositor.Client.trusts_stop _ id).bind fun _ => ?_
  exact (Journal.trusts_read _ since).bind fun journal => trusts_report _ _ _ journal

theorem trusts_compileAndExecute (config : Config) (made file : ScriptFile) (timeout : Number)
    (tokens : List String) :
    (compileAndExecute config (.ofPrograms made timeout) file tokens).Trusts := by
  unfold compileAndExecute
  refine (Job.trusts_ofExcept _).bind fun script => (Job.trusts_event _).bind fun _ =>
    (trusts_announce _ _).bind fun _ => ?_
  split
  · exact (Job.trusts_emit rfl).bind fun _ => Job.trusts_pure _
  · exact trusts_execute config made file timeout script.text

theorem trusts_run (config : Config) (made : ScriptFile) (timeout : Number)
    (tokens : List String) : (run config (.ofPrograms made timeout) tokens).Trusts := by
  have hcreate : (Host.ofPrograms made timeout).create.Trusts :=
    (Job.trusts_emit rfl).bind fun _ => Job.trusts_pure made
  unfold run
  exact (trusts_announce _ _).bind fun _ => hcreate.bind fun file =>
    (trusts_compileAndExecute config made file timeout tokens).ensuring rfl

end Run

namespace Program

theorem trusts_job (invocation : Invocation) (config : Config) (commands : List String) :
    (job invocation config commands).Trusts :=
  (Job.trusts_event _).bind fun _ => Run.trusts_run config invocation.file config.timeout commands

/-! ## Reports -/

theorem Report.launches_eq (report : Report) :
    report.launches = WindowScript.launches report.effects := rfl

theorem Report.stderr_eq (report : Report) :
    report.stderr = String.join (report.effects.filterMap Effect.printed?) := by
  obtain ⟨effects, status, directories, logFile⟩ := report
  simp only [Report.stderr]
  induction effects with
  | nil => rfl
  | cons effect rest ih =>
      cases effect <;> simp [List.filterMap_cons, Effect.printed?, ih]

/-- Two reports, the first of a run with the given replies, that have the same launches,
output and status, and the same error output if all the programs that were started exited
with code 0. -/
structure Report.Alike (replies : List Helper.Reply) (first second : Report) : Prop where
  launches_eq : first.launches = second.launches
  outputs_eq : outputs first.effects = outputs second.effects
  status_eq : first.status = second.status
  stderr_eq : (∀ reply ∈ replies.take first.launches.length, reply.ending = .exit 0) →
    first.stderr = second.stderr

theorem Report.Alike.refl (replies : List Helper.Reply) (report : Report) :
    report.Alike replies report :=
  ⟨rfl, rfl, rfl, fun _ => rfl⟩

/-- Reports with the same effects up to the run log. -/
theorem Report.alike_of_unlogged {replies : List Helper.Reply} {first second : Report}
    (hunlogged : unlogged first.effects = unlogged second.effects)
    (hstatus : first.status = second.status) : first.Alike replies second := by
  refine ⟨?_, outputs_eq_of_unlogged hunlogged, hstatus, fun _ => ?_⟩
  · rw [Report.launches_eq, Report.launches_eq, launches_eq_of_unlogged hunlogged]
  · rw [Report.stderr_eq, Report.stderr_eq, printed_eq_of_unlogged hunlogged]

theorem alike_failed {replies : List Helper.Reply} {effects effects' : List Effect}
    {failure failure' : Failure} (hunlogged : unlogged effects = unlogged effects')
    (hfailure : (∀ reply ∈ replies.take (launches effects).length, reply.ending = .exit 0) →
      failure = failure')
    (directories : List Directory.Place) (place : Option Directory.Place) :
    (failed effects directories place failure).Alike replies
      (failed effects' directories place failure') := by
  have hlaunches (effects : List Effect) (failure : Failure) :
      (failed effects directories place failure).launches = launches effects := by
    rw [Report.launches_eq, failed, launches_append]
    exact List.append_nil _
  refine ⟨?_, ?_, rfl, fun hexits => ?_⟩
  · rw [hlaunches, hlaunches, launches_eq_of_unlogged hunlogged]
  · rw [failed, failed, outputs_append, outputs_append, outputs_eq_of_unlogged hunlogged]
    rfl
  · rw [hlaunches] at hexits
    rw [Report.stderr_eq, Report.stderr_eq, failed, failed, List.filterMap_append,
      List.filterMap_append, printed_eq_of_unlogged hunlogged, hfailure hexits]

theorem alike_runCommands (invocation : Invocation) (config : Config) (commands : List String)
    {first second : World} (hworlds : first.Agrees second) :
    (runCommands invocation config commands first).Alike first.replies
      (runCommands invocation config commands second) := by
  have hdone := trusts_job invocation config commands first second hworlds
  unfold runCommands
  rw [← hworlds.clock_eq]
  dsimp only
  cases (chooseLog invocation config (commands.head?.getD "kdotool") first.clock).outcome with
  | error failure => exact Report.Alike.refl _ _
  | ok place =>
      obtain ⟨failure, failure', hfirst, hsecond⟩ | ⟨outcome, hfirst, hsecond⟩ := hdone.both
      · have hfailure := hdone.outcome_eq
        rw [hfirst, hsecond] at hfailure
        simp only [hfirst, hsecond]
        exact alike_failed hdone.unlogged_eq (fun hexits => Except.error.inj (hfailure hexits)) _ _
      · simp only [hfirst, hsecond]
        exact Report.alike_of_unlogged hdone.unlogged_eq rfl

/-- Nothing is decided by the error outputs of helper programs.

Take any call of the program and two lists of replies that agree, position by position,
in the output and in the exit code or signal. The two runs start the same programs with
the same arguments in the same order, write the same lines to the output, exit with the same
status and bring back the same, or fail in the same way: with the same failure up to the
error output that it quotes. If every program that was started exited with code 0 then
the error output of the two runs is the same, too. -/
theorem invoke_ignores_stderr (invocation : Invocation) (world : World)
    {replies replies' : List Helper.Reply}
    (hreplies : List.Forall₂ Helper.Reply.Agrees replies replies') :
    let one := invoke invocation { world with replies := replies }
    let two := invoke invocation { world with replies := replies' }
    one.launches = two.launches ∧ outputs one.effects = outputs two.effects ∧
    one.status = two.status ∧
    (∀ config commands,
      (job invocation config commands { world with replies := replies }).outcome.mapError
          Failure.withoutStderr =
        (job invocation config commands { world with replies := replies' }).outcome.mapError
          Failure.withoutStderr) ∧
    ((∀ reply ∈ replies.take one.launches.length, reply.ending = .exit 0) →
      one.stderr = two.stderr) := by
  intro one two
  have hworlds :
      World.Agrees { world with replies := replies } { world with replies := replies' } :=
    ⟨rfl, rfl, rfl, hreplies⟩
  have halike : one.Alike replies two := by
    dsimp only [one, two, invoke]
    cases Options.parse world.environment invocation.args with
    | error error => exact Report.Alike.refl _ _
    | ok request =>
        cases request with
        | help => exact Report.Alike.refl _ _
        | version => exact Report.Alike.refl _ _
        | run overrides commands => exact alike_runCommands _ _ _ hworlds
  exact ⟨halike.launches_eq, halike.outputs_eq, halike.status_eq,
    fun config commands => (trusts_job invocation config commands _ _ hworlds).kind_eq,
    halike.stderr_eq⟩

/-- A reply to a load request with the id 7. -/
def loadedReply (stderr : String) : Helper.Reply where
  stdout := "(7,)".toUTF8.toList
  stderr := stderr.toUTF8.toList

/-- Another id on the error output goes unnoticed. -/
theorem invoke_ignores_stderr_forged :
    let world : World := { clock := some (.integer 0) }
    let one := invoke plainCall { world with replies := [loadedReply ""] }
    let two := invoke plainCall { world with replies := [loadedReply "(9,)"] }
    one.launches = two.launches ∧ outputs one.effects = outputs two.effects ∧
      one.status = two.status ∧ one.stderr = two.stderr := by
  intro world one two
  have hreplies : List.Forall₂ Helper.Reply.Agrees [loadedReply ""] [loadedReply "(9,)"] :=
    .cons ⟨rfl, rfl⟩ .nil
  obtain ⟨hlaunches, houtputs, hstatus, -, hstderr⟩ :=
    invoke_ignores_stderr plainCall world hreplies
  refine ⟨hlaunches, houtputs, hstatus, hstderr fun reply hreply => ?_⟩
  rw [List.mem_singleton.mp (List.mem_of_mem_take hreply)]
  rfl

end Program

end WindowScript
