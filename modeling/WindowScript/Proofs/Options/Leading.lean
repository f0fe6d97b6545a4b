/-
# Leading options

A command line starts with a block of options, the longest one there is, and the rest
are commands. Three of the switches are flags: they turn a setting on and reading goes
on. The first option that is no flag ends reading at once, whatever stands before or
behind it. If there is none, the settings are those of the environment with the flags of
the block turned on.

The reader goes through the block token by token. Here the block is looked at as a
whole, and from this follows what the order and the number of its flags, and the tokens
behind it, cannot do.
-/

import Mathlib.Data.List.TakeWhile
import WindowScript.Options
import WindowScript.Proofs.Command.Refusal

namespace WindowScript.Options

open Command (isOption nextIsOption)

/-! ## Blocks of options -/

/-- How a switch may be written. -/
def spellings : Switch → List String
  | .help => ["-h", "--help"]
  | .version => ["-V", "--version"]
  | .debug => ["-d", "--debug"]
  | .dryRun => ["-n", "--dry-run"]
  | .log => ["--log"]

/-- Whether a switch stands among some tokens. -/
def given (switch : Switch) (tokens : List String) : Bool :=
  tokens.any (spellings switch).contains

/-- Options that turn a setting on. -/
def isFlag (token : String) : Bool :=
  ["-d", "--debug", "-n", "--dry-run", "--log"].contains token

/-- The first option of a block that is no flag. -/
def decisive? (options : List String) : Option String :=
  options.find? (!isFlag ·)

/-- What comes of an option that is no flag. -/
def verdict (token : String) : Except Command.Error Request :=
  if (spellings .help).contains token then .ok .help
  else if (spellings .version).contains token then .ok .version
  else .error (.unknownOption token)

/-- Settings with the flags of a block turned on. -/
def withFlags (overrides : Overrides) (options : List String) : Overrides :=
  { overrides with
    debug := overrides.debug || given .debug options
    dryRun := overrides.dryRun || given .dryRun options
    enableLog := overrides.enableLog || given .log options }

/-- What a block of options and the commands behind it ask for. -/
def answer (overrides : Overrides) (options commands : List String) :
    Except Command.Error Request :=
  match decisive? options with
  | some token => verdict token
  | none => .ok (.run (withFlags overrides options) commands)

theorem mem_spellings_iff {token : String} {switch : Switch} :
    token ∈ spellings switch ↔ switch? token = some switch := by
  unfold switch?
  constructor
  · cases switch <;> simp only [spellings, List.mem_cons, List.not_mem_nil, or_false] <;>
      rintro (rfl | rfl) <;> rfl
  · split_ifs <;> rintro ⟨⟩ <;> simpa [spellings]

theorem isFlag_iff {token : String} :
    isFlag token ↔ switch? token = some .debug ∨ switch? token = some .dryRun ∨
      switch? token = some .log := by
  simp [isFlag, ← mem_spellings_iff, spellings, or_assoc]

theorem given_singleton {token : String} (switch : Switch) :
    given switch [token] = decide (switch? token = some switch) := by
  simp [given, mem_spellings_iff]

theorem given_iff {switch : Switch} {tokens : List String} :
    given switch tokens ↔ ∃ token ∈ tokens, token ∈ spellings switch := by
  simp [given]

@[simp]
theorem withFlags_nil (overrides : Overrides) : withFlags overrides [] = overrides := by
  simp [withFlags, given]

theorem withFlags_cons (overrides : Overrides) (token : String) (options : List String) :
    withFlags overrides (token :: options) = withFlags (withFlags overrides [token]) options := by
  simp [withFlags, given, Bool.or_assoc]

/-! ## Reading a block -/

/-- A flag turns its setting on, and reading goes on. -/
theorem read_flag {token : String} (hoption : isOption token) (hflag : isFlag token)
    (overrides : Overrides) (rest : List String) :
    read overrides (token :: rest) = read (withFlags overrides [token]) rest := by
  rw [read, if_pos hoption]
  rcases isFlag_iff.mp hflag with hswitch | hswitch | hswitch <;>
    simp [hswitch, withFlags, given_singleton]

/-- Any other option ends reading. -/
theorem read_verdict {token : String} (hoption : isOption token) (hflag : isFlag token = false)
    (overrides : Overrides) (rest : List String) :
    read overrides (token :: rest) = verdict token := by
  have hother := mt isFlag_iff.mpr (ne_true_of_eq_false hflag)
  rw [read, if_pos hoption, verdict]
  cases hswitch : switch? token with
  | none => simp [mem_spellings_iff, hswitch]
  | some switch => cases switch <;> simp_all [mem_spellings_iff]

/-- The commands are not looked into. -/
theorem read_commands {commands : List String} (hcommands : nextIsOption commands = false)
    (overrides : Overrides) : read overrides commands = .ok (.run overrides commands) := by
  cases commands with
  | nil => rfl
  | cons first rest =>
      have hfirst : isOption first = false := by simpa [nextIsOption] using hcommands
      rw [read, if_neg (ne_true_of_eq_false hfirst)]

theorem read_append {options commands : List String} (hoptions : ∀ token ∈ options, isOption token)
    (hcommands : nextIsOption commands = false) (overrides : Overrides) :
    read overrides (options ++ commands) = answer overrides options commands := by
  -- The settings grow along the block, so they are general in the induction.
  induction options generalizing overrides with
  | nil => rw [List.nil_append, read_commands hcommands, answer, decisive?, List.find?_nil,
      withFlags_nil]
  | cons token options ih =>
      obtain ⟨hoption, hrest⟩ := List.forall_mem_cons.mp hoptions
      rw [List.cons_append]
      cases hflag : isFlag token with
      | true =>
          rw [read_flag hoption hflag, ih hrest, answer, answer, ← withFlags_cons]
          simp only [decisive?, List.find?_cons, hflag, Bool.not_true]
      | false =>
          rw [read_verdict hoption hflag]
          simp only [answer, decisive?, List.find?_cons, hflag, Bool.not_false]

/-- A command line is a block of options and the commands behind it. -/
theorem parse_append {options commands : List String} (hoptions : ∀ token ∈ options, isOption token)
    (hcommands : nextIsOption commands = false) (hargs : options ++ commands ≠ [])
    (environment : Helper.Environment) :
    parse environment (options ++ commands) =
      answer (ofEnvironment environment) options commands := by
  rw [parse, if_neg hargs, read_append hoptions hcommands]

theorem nextIsOption_dropWhile (args : List String) :
    nextIsOption (args.dropWhile isOption) = false := by
  rw [nextIsOption, ← List.find?_not_eq_head?_dropWhile, Option.any_eq_false]
  intro token htoken
  simpa using List.find?_some htoken

/-- The block of a command line is as long as it can be. -/
theorem parse_eq_answer {args : List String} (hargs : args ≠ [])
    (environment : Helper.Environment) :
    parse environment args = answer (ofEnvironment environment) (args.takeWhile isOption)
      (args.dropWhile isOption) := by
  have hsplit := List.takeWhile_append_dropWhile (p := isOption) (l := args)
  rw [← parse_append (fun _ => List.mem_takeWhile_imp) (nextIsOption_dropWhile args)
    (by rwa [hsplit]), hsplit]

/-! ## What does not matter -/

/-- The same options, up to the order and the number of the flags among them. -/
structure SameOptions (options others : List String) : Prop where
  decisive : options.filter (!isFlag ·) = others.filter (!isFlag ·)
  flags : ∀ token, isFlag token → (token ∈ options ↔ token ∈ others)

namespace SameOptions

variable {options others : List String} (hsame : SameOptions options others)
include hsame

theorem decisive?_eq : decisive? options = decisive? others := by
  rw [decisive?, decisive?, ← List.head?_filter, ← List.head?_filter, hsame.decisive]

theorem given_eq {switch : Switch} (hflag : ∀ token ∈ spellings switch, isFlag token) :
    given switch options = given switch others := by
  rw [Bool.eq_iff_iff, given_iff, given_iff]
  have hmem (token : String) : token ∈ options ∧ token ∈ spellings switch ↔
      token ∈ others ∧ token ∈ spellings switch :=
    and_congr_left fun hspelling => hsame.flags token (hflag token hspelling)
  simp only [hmem]

theorem answer_eq (overrides : Overrides) (commands : List String) :
    answer overrides options commands = answer overrides others commands := by
  rw [answer, answer, hsame.decisive?_eq, withFlags, withFlags, hsame.given_eq (by decide),
    hsame.given_eq (by decide), hsame.given_eq (by decide)]

theorem mem_iff (token : String) : token ∈ options ↔ token ∈ others := by
  cases hflag : isFlag token with
  | true => exact hsame.flags token hflag
  | false =>
      have hmem : token ∈ options.filter (!isFlag ·) ↔ token ∈ others.filter (!isFlag ·) := by
        rw [hsame.decisive]
      simpa [hflag] using hmem

theorem parse_eq {commands : List String} (hothers : ∀ token ∈ others, isOption token)
    (hcommands : nextIsOption commands = false) (environment : Helper.Environment) :
    parse environment (options ++ commands) = parse environment (others ++ commands) := by
  have hoptions (token : String) (htoken : token ∈ options) : isOption token :=
    hothers token ((hsame.mem_iff token).mp htoken)
  have hnil : options ++ commands = [] ↔ others ++ commands = [] := by
    simp only [List.eq_nil_iff_forall_not_mem, List.mem_append, hsame.mem_iff]
  rw [parse, parse, read_append hoptions hcommands, read_append hothers hcommands,
    hsame.answer_eq]
  simp only [hnil]

end SameOptions

/-- The same request for other commands. -/
def Request.withCommands (commands : List String) : Request → Request
  | .run overrides _ => .run overrides commands
  | request => request

theorem answer_commands (overrides : Overrides) (options commands others : List String) :
    answer overrides options others =
      (answer overrides options commands).map (Request.withCommands others) := by
  rw [answer, answer]
  split
  · rw [verdict]
    split_ifs <;> rfl
  · rfl

theorem commands_eq_of_answer {overrides settings : Overrides}
    {options commands others : List String}
    (hanswer : answer overrides options commands = .ok (.run settings others)) :
    commands = others := by
  have hsame := answer_commands overrides options commands commands
  rw [hanswer] at hsame
  exact (Request.run.inj (Except.ok.inj hsame)).2.symm

theorem isOption_of_read {check : Command.TermCheck} {verb token : String} {tokens : List String}
    (hread : (Command.read check verb tokens).outcome = .error (.unexpectedOption token)) :
    isOption token := by
  unfold Command.read at hread
  split_ifs at hread with hoption hsearch hactive
  · obtain rfl := Command.Error.unexpectedOption.inj (Except.error.inj hread)
    exact hoption
  · unfold Command.readSearch at hread
    split at hread
    · simp at hread
    · split_ifs at hread
      · simp at hread
      · split at hread <;> simp at hread
  · split at hread
    · obtain ⟨_, _, _, herror⟩ := Command.readAction_eq_error hread
      simp at herror
    · simp at hread

/-- Only options are refused as unexpected. -/
theorem isOption_of_compile {target : Script.Target} {tokens : List String} {token : String}
    (hcompile : Script.compile target tokens = .error (.unexpectedOption token)) :
    isOption token := by
  have hrefused := Command.refused_of_parseWith (Script.compile_eq_error_iff.mp hcompile)
  clear hcompile
  induction hrefused with
  | failed hread => exact isOption_of_read hread
  | passed _ _ ih => exact ih

/-- On a command line that is not empty, options are read from the longest block of them
at its front. The first one that is no flag decides alone: help, the version, or an error
that names it. Without such an option the settings are those of the environment, with
each flag on exactly if the block has a spelling of it, and the commands are all that
follows the block, as it is.

So the order and the number of the flags do not matter, the tokens behind the first
command word change nothing but the commands, and compiling the commands does not fail
because the first of them is an option. -/
theorem parse_leading_options (environment : Helper.Environment) (args : List String)
    (hargs : args ≠ []) :
    (∀ token, decisive? (args.takeWhile isOption) = some token →
      (token ∈ spellings .help → parse environment args = .ok .help) ∧
      (token ∈ spellings .version → parse environment args = .ok .version) ∧
      (token ∉ spellings .help → token ∉ spellings .version →
        ∃ error, parse environment args = .error error ∧
          error.message = "unknown option: " ++ token ∧ error.token? = some token)) ∧
    (decisive? (args.takeWhile isOption) = none →
      parse environment args = .ok (.run
        { ofEnvironment environment with
          debug := given .debug (args.takeWhile isOption)
          dryRun := given .dryRun (args.takeWhile isOption)
          enableLog := given .log (args.takeWhile isOption) }
        (args.dropWhile isOption))) ∧
    (∀ options, SameOptions options (args.takeWhile isOption) →
      parse environment (options ++ args.dropWhile isOption) = parse environment args) ∧
    (∀ first rest, args.dropWhile isOption = first :: rest → ∀ more,
      parse environment (args.takeWhile isOption ++ first :: more) =
        (parse environment args).map (Request.withCommands (first :: more))) ∧
    ∀ overrides first rest, parse environment args = .ok (.run overrides (first :: rest)) →
      ∀ target, Script.compile target (first :: rest) ≠ .error (.unexpectedOption first) := by
  have hsplit := List.takeWhile_append_dropWhile (p := isOption) (l := args)
  have hblock (token : String) (htoken : token ∈ args.takeWhile isOption) : isOption token :=
    List.mem_takeWhile_imp htoken
  have hbehind := nextIsOption_dropWhile args
  have hparse := parse_eq_answer hargs environment
  refine ⟨fun token hdecisive => ?_, fun hdecisive => ?_, fun options hsame => ?_,
    fun first rest hfirst more => ?_, fun overrides first rest hrun target hcompile => ?_⟩
  · rw [hparse, answer, hdecisive]
    refine ⟨fun hhelp => ?_, fun hversion => ?_, fun hhelp hversion => ?_⟩
    · simp [verdict, hhelp]
    · have hhelp : token ∉ spellings .help := by
        rw [mem_spellings_iff] at hversion ⊢
        simp [hversion]
      simp [verdict, hhelp, hversion]
    · exact ⟨.unknownOption token, by simp [verdict, hhelp, hversion], rfl, rfl⟩
  · rw [hparse, answer, hdecisive]
    rfl
  · rw [hsame.parse_eq hblock hbehind, hsplit]
  · have hmore : nextIsOption (first :: more) = false := by rwa [hfirst] at hbehind
    rw [hparse, parse_append hblock hmore (by simp)]
    exact answer_commands _ _ _ _
  · rw [hparse] at hrun
    rw [commands_eq_of_answer hrun, nextIsOption] at hbehind
    simp [isOption_of_compile hcompile] at hbehind

/-- A version asked for before an unknown option, an unknown option before help, and flags
in another order with one of them repeated, where help behind a command is no option. -/
theorem parse_leading_options_mixed :
    parse [] ["-d", "-V", "--nope", "search"] = .ok .version ∧
    (∃ error, parse [] ["-n", "--nope", "-h"] = .error error ∧
      error.message = "unknown option: " ++ "--nope" ∧ error.token? = some "--nope") ∧
    parse [("KDE_SESSION_VERSION", "5")] ["-d", "--log", "search", "-h"] =
      .ok (.run { kde5 := true, logDir := none, debug := true, enableLog := true }
        ["search", "-h"]) ∧
    parse [("KDE_SESSION_VERSION", "5")] ["--log", "-d", "--log", "search", "-h"] =
      parse [("KDE_SESSION_VERSION", "5")] ["-d", "--log", "search", "-h"] ∧
    parse [("KDE_SESSION_VERSION", "5")] ["-d", "--log", "search", "-V"] =
      (parse [("KDE_SESSION_VERSION", "5")] ["-d", "--log", "search", "-h"]).map
        (Request.withCommands ["search", "-V"]) ∧
    Script.compile ⟨"m", false, false⟩ ["search", "-h"] ≠ .error (.unexpectedOption "search") := by
  obtain ⟨hversion, -⟩ := parse_leading_options [] ["-d", "-V", "--nope", "search"] (by simp)
  obtain ⟨hunknown, -⟩ := parse_leading_options [] ["-n", "--nope", "-h"] (by simp)
  obtain ⟨-, hrun, hsame, hmore, hcompile⟩ := parse_leading_options
    [("KDE_SESSION_VERSION", "5")] ["-d", "--log", "search", "-h"] (by simp)
  have hblock : ["-d", "--log", "search", "-h"].takeWhile isOption = ["-d", "--log"] := by decide
  have hflags : SameOptions ["--log", "-d", "--log"] ["-d", "--log"] :=
    ⟨by decide, fun token _ => by simp [or_comm]⟩
  exact ⟨(hversion "-V" rfl).2.1 (by decide),
    (hunknown "--nope" rfl).2.2 (by decide) (by decide),
    hrun rfl, hsame ["--log", "-d", "--log"] (by rwa [hblock]),
    hmore "search" ["-h"] rfl ["-V"], hcompile _ _ _ (hrun rfl) _⟩

end WindowScript.Options
