/-
# Requests to helper programs

Calls on the message bus and reading the journal have one shape: the run log is told
about a launch, one program is started, and its output is the answer if it exits with
code 0. A program that does not exist is not started and uses up no reply. Everything
else that is proved about requests rests on this shape.

A load request also reads the id of the script from the answer. Ids are numbers in
double precision, and rounding does not change their sign.
-/

import WindowScript.Compositor.Client
import WindowScript.Journal.Reader
import WindowScript.Proofs.Number.Rounding
import WindowScript.Proofs.Run.Lifecycle

namespace WindowScript

/-! ## One launch -/

namespace Job

variable {launch : Helper.Launch} {world : World}

theorem start_of_missing (hmissing : launch.file ∈ world.missing) :
    Job.start launch world = ⟨[], world, .error (.missingProgram launch.file)⟩ := by
  rw [Job.start, if_pos (Or.inl hmissing)]

theorem start_of_not_missing (hmissing : launch.file ∉ world.missing)
    (hdirectory : launch.directory = none) :
    Job.start launch world =
      ⟨[.launch launch (world.environment.change launch.changes)],
        { world with replies := world.replies.tail }, .ok (world.replies.headD {}).result⟩ := by
  rw [Job.start, if_neg]
  simp [hmissing, hdirectory]

end Job

/-- The output of a program that exited with code 0, and else a failure. -/
def Helper.Result.answer (blame : Helper.Result → Failure) (result : Helper.Result) :
    Except Failure String :=
  if result.exitCode = 0 then .ok result.stdout else .error (blame result)

/-- A job that starts one helper program and takes its output for an answer. Around
the launch it tells the run log and does nothing else. -/
structure Job.Asks (launch : Helper.Launch) (blame : Helper.Result → Failure)
    (job : Job String) : Prop where
  missing : ∀ world : World, launch.file ∈ world.missing → ∃ texts : List String,
    job world = ⟨texts.map .log, world, .error (.missingProgram launch.file)⟩
  started : ∀ world : World, launch.file ∉ world.missing → ∃ before after : List String,
    job world =
      ⟨before.map .log ++
          .launch launch (world.environment.change launch.changes) :: after.map .log,
        { world with replies := world.replies.tail },
        (world.replies.headD {}).result.answer blame⟩

namespace Compositor

/-- What a failed call is blamed on. -/
def Client.blame (client : Client) (objectPath method : String) (args : List String)
    (result : Helper.Result) : Failure :=
  .transport (.callFailed method (client.launch objectPath method args).text result)

theorem Client.asks_call (client : Client) (objectPath method : String) (args : List String) :
    Job.Asks (client.launch objectPath method args) (client.blame objectPath method args)
      (client.call objectPath method args) := by
  refine ⟨fun world hmissing => ?_, fun world hmissing => ?_⟩
  · refine ⟨["$ " ++ (client.launch objectPath method args).text], ?_⟩
    rw [Client.call, Job.bind_of_ok rfl, Job.bind_of_error (Job.start_of_missing hmissing)]
    rfl
  · refine ⟨["$ " ++ (client.launch objectPath method args).text],
      [Text.trimEnd ((world.replies.headD {}).result.stdout ++
        (world.replies.headD {}).result.stderr)], ?_⟩
    rw [Client.call, Job.bind_of_ok rfl, Job.bind_of_ok (Job.start_of_not_missing hmissing rfl),
      Job.bind_of_ok rfl, Helper.Result.answer]
    split <;> rfl

end Compositor

namespace Journal

open WindowScript.Calendar (Instant)

/-- What a failed reading of the journal is blamed on. -/
def blame (file : String) (since : Option Instant) (result : Helper.Result) : Failure :=
  .transport (.journalFailed (launch file since).text result)

theorem asks_read (file : String) (since : Option Instant) :
    Job.Asks (launch file since) (blame file since) (read file since) := by
  refine ⟨fun world hmissing => ?_, fun world hmissing => ?_⟩
  · refine ⟨["$ " ++ (launch file since).text], ?_⟩
    rw [read, Job.bind_of_ok rfl, Job.bind_of_error (Job.start_of_missing hmissing)]
    rfl
  · rw [read, Job.bind_of_ok rfl, Job.bind_of_ok (Job.start_of_not_missing hmissing rfl),
      Helper.Result.answer]
    split
    · exact ⟨["$ " ++ (launch file since).text], [_], rfl⟩
    · exact ⟨["$ " ++ (launch file since).text], [], rfl⟩

end Journal

/-! ## Loaded scripts -/

namespace Compositor

/-- A load request is granted exactly if the first tuple of the answer holds an integer
that is not negative. The id is that integer, as a number. -/
theorem loadedId_eq_ok_iff {path reply : String} {id : Number} :
    loadedId path reply = .ok id ↔
      ∃ n : Int, firstTuple? reply.toList = some n ∧ 0 ≤ n ∧ Number.ofInt n = id := by
  unfold loadedId scriptId?
  cases firstTuple? reply.toList with
  | none => simp
  | some n =>
      simp only [Option.map_some, Number.below_zero_ofInt, decide_eq_true_eq]
      by_cases hsign : n < 0
      · simp [hsign, Int.not_le.mpr hsign]
      · simp [hsign, Int.not_lt.mp hsign]

end Compositor

end WindowScript
