/-
# Chaining command lines

A command line that is accepted may be continued by another one. The reader may
stand at the seam in three ways: after a complete query, after an action with its
operand, or after an action whose options were skipped and which still looks for an
operand. In each case a verb ends what came before, so that the second command line
is read as if it stood alone, with the same commands or the same error.

The steps are chained as the commands are. Only the report that a last query calls
for depends on what follows, and so it is left to the second command line, which
must not be empty then.
-/

import WindowScript.Proofs.Command.Grammar
import WindowScript.Proofs.Script.Staging

namespace WindowScript.Command

variable {check : TermCheck} {first second : List String} {commands : List Command}

/-! ## Reading across the seam -/

theorem startsCommand_flatMap_append (phrases : List Phrase) (hsecond : StartsCommand second) :
    StartsCommand (phrases.flatMap Phrase.tokens ++ second) := by
  cases phrases with
  | nil => exact hsecond
  | cons phrase phrases =>
      rw [List.flatMap_cons, List.append_assoc]
      exact phrase.startsCommand_tokens_append _

/-- Phrases before a command line are read as their commands, and leave the rest as
it is. -/
theorem parseWith_flatMap_append {phrases : List Phrase}
    (hphrases : List.Forall₂ (Phrase.Denotes check) phrases commands)
    (hsecond : StartsCommand second) :
    parseWith check (phrases.flatMap Phrase.tokens ++ second) =
      (parseWith check second).map (commands ++ ·) := by
  induction hphrases with
  | nil =>
      rw [List.flatMap_nil, List.nil_append]
      cases parseWith check second <;> rfl
  | @cons phrase command phrases commands hphrase _ ih =>
      have hrest := startsCommand_flatMap_append phrases hsecond
      rw [List.flatMap_cons, List.append_assoc, parseWith_tokens_append hphrase hrest, ih]
      cases parseWith check second <;> rfl

theorem parseWith_append (hfirst : parseWith check first = .ok commands)
    (hsecond : StartsCommand second) :
    parseWith check (first ++ second) = (parseWith check second).map (commands ++ ·) := by
  obtain ⟨phrases, hdenotes, rfl⟩ := exists_cut_of_parseWith hfirst
  exact parseWith_flatMap_append hdenotes hsecond

theorem parse_append_eq_ok_iff (hfirst : parse first = .ok commands)
    (hsecond : StartsCommand second) {whole : List Command} :
    parse (first ++ second) = .ok whole ↔
      ∃ following, parse second = .ok following ∧ whole = commands ++ following := by
  rw [parse, parseWith_append hfirst hsecond, parse]
  cases parseWith Pattern.fault? second <;> simp [Except.map, eq_comm]

theorem parse_append_eq_error_iff (hfirst : parse first = .ok commands)
    (hsecond : StartsCommand second) {error : Error} :
    parse (first ++ second) = .error error ↔ parse second = .error error := by
  rw [parse, parseWith_append hfirst hsecond, parse]
  cases parseWith Pattern.fault? second <;> simp [Except.map]

/-! ## Lowering across the seam -/

/-- A token that is accepted belongs to some command. -/
theorem ne_nil_of_parse {tokens : List String} (htokens : tokens ≠ [])
    (hparse : parse tokens = .ok commands) : commands ≠ [] := by
  rintro rfl
  obtain ⟨phrases, hdenotes, hflat⟩ := exists_cut_of_parseWith hparse
  rw [List.forall₂_nil_right_iff] at hdenotes
  subst hdenotes
  exact htokens hflat.symm

theorem compile_append (hfirst : parse first = .ok commands) (hsecond : StartsCommand second)
    (hne : second ≠ []) {target : Script.Target} {compiled : Script.Compiled}
    (hcompiled : Script.compile target second = .ok compiled) :
    ∃ whole, Script.compile target (first ++ second) = .ok whole ∧
      whole.steps = commands.map Step.ofCommand ++ compiled.steps := by
  obtain ⟨following, hfollowing, rfl⟩ := Script.compile_eq_ok_iff.mp hcompiled
  have hwhole : parse (first ++ second) = .ok (commands ++ following) :=
    (parse_append_eq_ok_iff hfirst hsecond).mpr ⟨following, hfollowing, rfl⟩
  exact ⟨_, Script.compile_of_parse hwhole target,
    Script.stepsAfter_append false commands (ne_nil_of_parse hne hfollowing)⟩

/-- A command line that is accepted, followed by one that is empty or starts with a
verb, is accepted exactly if the second one is. Its commands are then those of the
first and those of the second, and otherwise its error is the error of the second.
If the second one is not empty, the same holds of compiling, for every target: the
error is the same, and the steps are one for each command of the first and then the
steps of the second. -/
theorem parse_append_and_compile (hfirst : parse first = .ok commands)
    (hsecond : StartsCommand second) :
    (∀ whole, parse (first ++ second) = .ok whole ↔
      ∃ following, parse second = .ok following ∧ whole = commands ++ following) ∧
    (∀ error, parse (first ++ second) = .error error ↔ parse second = .error error) ∧
    ∀ target, second ≠ [] →
      (∀ error, Script.compile target (first ++ second) = .error error ↔
        Script.compile target second = .error error) ∧
      ∀ compiled, Script.compile target second = .ok compiled →
        ∃ whole, Script.compile target (first ++ second) = .ok whole ∧
          whole.steps = commands.map Step.ofCommand ++ compiled.steps := by
  refine ⟨fun whole => parse_append_eq_ok_iff hfirst hsecond,
    fun error => parse_append_eq_error_iff hfirst hsecond, fun target hne => ⟨?_, ?_⟩⟩
  · intro error
    rw [Script.compile_eq_error_iff, Script.compile_eq_error_iff]
    exact parse_append_eq_error_iff hfirst hsecond
  · exact fun compiled => compile_append hfirst hsecond hne

/-- A verb after skipped options is no operand, and an error behind the seam is
found. -/
theorem parse_append_and_compile_options :
    let first := ["search", "search", "windowclose", "-f", "--"]
    parse (first ++ ["getactivewindow"]) =
        .ok [.search "search", .act .close (.index 1), .activeWindow] ∧
      parse (first ++ ["windowkill", "%x"]) = .error (.invalidSelector "%x") ∧
      ∃ whole, Script.compile ⟨"m", true, false⟩ (first ++ ["getactivewindow"]) = .ok whole ∧
        whole.steps = [.search "search" false, .onStackItem .close 1, .activeWindow, .report] := by
  intro first
  have hterm : Pattern.fault? "search" = none := by decide +kernel
  have hfirst : parse first = .ok [.search "search", .act .close .first] :=
    Script.parse_cons (Script.read_search rfl hterm _) (Script.parse_cons rfl Script.parse_nil)
  have hactive : parse ["getactivewindow"] = .ok [.activeWindow] :=
    Script.parse_cons rfl Script.parse_nil
  have hkill : parse ["windowkill", "%x"] = .error (.invalidSelector "%x") := by
    rw [parse, parseWith]
    rfl
  have hseam : StartsCommand ["getactivewindow"] := by simp [StartsCommand, isVerb]
  have hseam' : StartsCommand ["windowkill", "%x"] := by
    rintro token ⟨⟩
    exact isVerb_iff.mpr (.inr (.inr ⟨.kill, rfl⟩))
  obtain ⟨haccepts, -, hcompiles⟩ := parse_append_and_compile hfirst hseam
  obtain ⟨-, hrefuses, -⟩ := parse_append_and_compile hfirst hseam'
  exact ⟨(haccepts _).mpr ⟨_, hactive, rfl⟩, (hrefuses _).mpr hkill,
    (hcompiles _ (by simp)).2 _ (Script.compile_of_parse hactive _)⟩

end WindowScript.Command
