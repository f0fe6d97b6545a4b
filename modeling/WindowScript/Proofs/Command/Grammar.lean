/-
# The grammar of command lines

A command line is a chain of phrases, one for each command. The grammar says which
tokens make up a phrase and which command it stands for, and nothing about the
order in which tokens are looked at. Reading is greedy: it skips all options after
an action and takes the next token for its operand unless it is a verb. It accepts
exactly the chains of phrases, because a phrase is followed by a verb or by
nothing, and no chain can be cut in a second way.

Which search terms are acceptable is left open, as it is for reading.
-/

import Mathlib.Data.List.Forall2
import Mathlib.Data.List.TakeWhile
import WindowScript.Command.Reader

namespace WindowScript

theorem Action.ofVerb?_eq_some_iff {word : String} {action : Action} :
    Action.ofVerb? word = some action ↔ action.verb = word := by
  constructor
  · intro hfound
    simpa using List.find?_some hfound
  · rintro rfl
    exact Action.ofVerb?_verb action

namespace Command

/-! ## Phrases -/

/-- A command as it is written. Between an action and its operand there may be
options. -/
inductive Phrase
  | search (term : String)
  | activeWindow
  | act (action : Action) (options : List String) (operand : Option String)
  deriving DecidableEq, Repr

namespace Phrase

/-- The tokens of a phrase. -/
def tokens : Phrase → List String
  | .search term => ["search", term]
  | .activeWindow => ["getactivewindow"]
  | .act action options operand => action.verb :: (options ++ operand.toList)

/-- The command that a phrase stands for. A search term may be a verb, an operand
may not. -/
inductive Denotes (check : TermCheck) : Phrase → Command → Prop
  | search {term : String} (hoption : isOption term = false) (hterm : check term = none) :
      Denotes check (.search term) (.search term)
  | activeWindow : Denotes check .activeWindow .activeWindow
  | onFirst {action : Action} {options : List String}
      (hoptions : ∀ option ∈ options, isOption option) :
      Denotes check (.act action options none) (.act action (.index 1))
  | onSelected {action : Action} {options : List String} {operand : String}
      {selector : Selector} (hoptions : ∀ option ∈ options, isOption option)
      (hoption : isOption operand = false) (hverb : isVerb operand = false)
      (hselector : Selector.ofToken? operand = some selector) :
      Denotes check (.act action options (some operand)) (.act action selector)

end Phrase

/-- A command line cut into phrases, one for each command, in order. -/
structure Cut (check : TermCheck) (tokens : List String) (commands : List Command)
    (phrases : List Phrase) : Prop where
  denotes : List.Forall₂ (Phrase.Denotes check) phrases commands
  tokens_eq : phrases.flatMap Phrase.tokens = tokens

/-! ## What follows a phrase -/

/-- The tokens are used up, or the next one is a verb. -/
def StartsCommand (tokens : List String) : Prop := ∀ token ∈ tokens.head?, isVerb token

theorem isVerb_iff {token : String} :
    isVerb token ↔
      token = "search" ∨ token = "getactivewindow" ∨ ∃ action : Action, action.verb = token := by
  simp only [isVerb, Bool.or_eq_true, decide_eq_true_eq, or_assoc, Option.isSome_iff_exists,
    Action.ofVerb?_eq_some_iff]

theorem isOption_verb (action : Action) : isOption action.verb = false := by
  cases action <;> decide

theorem isOption_of_isVerb {token : String} (hverb : isVerb token) : isOption token = false := by
  rcases isVerb_iff.mp hverb with rfl | rfl | ⟨action, rfl⟩
  · decide
  · decide
  · exact isOption_verb action

theorem Phrase.startsCommand_tokens_append (phrase : Phrase) (rest : List String) :
    StartsCommand (phrase.tokens ++ rest) := by
  intro token htoken
  rw [isVerb_iff]
  cases phrase with
  | search term => exact Or.inl (Option.some.inj htoken).symm
  | activeWindow => exact Or.inr (Or.inl (Option.some.inj htoken).symm)
  | act action options operand => exact Or.inr (Or.inr ⟨action, Option.some.inj htoken⟩)

theorem startsCommand_flatMap (phrases : List Phrase) :
    StartsCommand (phrases.flatMap Phrase.tokens) := by
  cases phrases with
  | nil => simp [StartsCommand]
  | cons phrase phrases =>
      rw [List.flatMap_cons]
      exact phrase.startsCommand_tokens_append _

/-! ## Phrases are read -/

/-- Skipping options ends where the options end. -/
theorem dropWhile_options {options rest : List String}
    (hoptions : ∀ option ∈ options, isOption option)
    (hrest : ∀ token ∈ rest.head?, isOption token = false) :
    (options ++ rest).dropWhile isOption = rest := by
  rw [List.dropWhile_append_of_pos hoptions]
  cases rest with
  | nil => rfl
  | cons token rest => simp [hrest token rfl]

theorem read_verb (check : TermCheck) (action : Action) (tokens : List String) :
    read check action.verb tokens = readAction action tokens := by
  have hsearch : action.verb ≠ "search" := by cases action <;> decide
  have hactive : action.verb ≠ "getactivewindow" := by cases action <;> decide
  simp [read, isOption_verb, hsearch, hactive]

variable {check : TermCheck}

/-- A phrase that is followed by a verb or by nothing is read as its command, and
what follows is left. -/
theorem Phrase.Denotes.read {phrase : Phrase} {command : Command}
    (hphrase : phrase.Denotes check command) {rest : List String} (hrest : StartsCommand rest) :
    ∃ verb tail, phrase.tokens = verb :: tail ∧
      Command.read check verb (tail ++ rest) = ⟨.ok command, rest⟩ := by
  cases hphrase with
  | @search term hoption hterm =>
      refine ⟨"search", [term], rfl, ?_⟩
      have hverb : isOption "search" = false := by decide
      simp [Command.read, readSearch, hverb, hoption, hterm]
  | activeWindow =>
      refine ⟨"getactivewindow", [], rfl, ?_⟩
      have hverb : isOption "getactivewindow" = false := by decide
      simp [Command.read, hverb]
  | @onFirst action options hoptions =>
      refine ⟨action.verb, options, by simp [Phrase.tokens], ?_⟩
      rw [read_verb, readAction,
        dropWhile_options hoptions fun token htoken => isOption_of_isVerb (hrest token htoken)]
      cases rest with
      | nil => rfl
      | cons token rest => simp [hrest token rfl, Selector.first]
  | @onSelected action options operand selector hoptions hoption hverb hselector =>
      refine ⟨action.verb, options ++ [operand], rfl, ?_⟩
      rw [read_verb, readAction, List.append_assoc, dropWhile_options hoptions (by simpa)]
      simp [hverb, hselector]

theorem parseWith_tokens_append {phrase : Phrase} {command : Command}
    (hphrase : phrase.Denotes check command) {rest : List String} (hrest : StartsCommand rest) :
    parseWith check (phrase.tokens ++ rest) = (parseWith check rest).map (command :: ·) := by
  obtain ⟨verb, tail, htokens, hread⟩ := hphrase.read hrest
  rw [htokens, List.cons_append, parseWith, hread]

/-- Every chain of phrases is accepted. -/
theorem parseWith_of_denotes {phrases : List Phrase} {commands : List Command}
    (hphrases : List.Forall₂ (Phrase.Denotes check) phrases commands) :
    parseWith check (phrases.flatMap Phrase.tokens) = .ok commands := by
  induction hphrases with
  | nil => rw [List.flatMap_nil, parseWith]
  | @cons phrase command phrases commands hphrase _ ih =>
      rw [List.flatMap_cons, parseWith_tokens_append hphrase (startsCommand_flatMap phrases), ih]
      rfl

/-! ## What is read is a phrase -/

theorem readSearch_eq_ok {tokens : List String} {command : Command}
    (hread : (readSearch check tokens).outcome = .ok command) :
    ∃ phrase : Phrase, phrase.Denotes check command ∧
      "search" :: tokens = phrase.tokens ++ (readSearch check tokens).rest := by
  cases tokens with
  | nil => simp [readSearch] at hread
  | cons token rest =>
      cases hoption : isOption token with
      | true => simp [readSearch, hoption] at hread
      | false =>
          cases hterm : check token with
          | some fault => simp [readSearch, hoption, hterm] at hread
          | none =>
              simp only [readSearch, hoption, hterm, Bool.false_eq_true, if_false,
                Except.ok.injEq] at hread ⊢
              exact ⟨.search token, hread ▸ .search hoption hterm, rfl⟩

theorem readAction_eq_ok {action : Action} {tokens : List String} {command : Command}
    (hread : (readAction action tokens).outcome = .ok command) :
    ∃ phrase : Phrase, phrase.Denotes check command ∧
      action.verb :: tokens = phrase.tokens ++ (readAction action tokens).rest := by
  have hoptions : ∀ option ∈ tokens.takeWhile isOption, isOption option :=
    fun option => List.mem_takeWhile_imp
  have hsplit := List.takeWhile_append_dropWhile (p := isOption) (l := tokens)
  unfold readAction at hread ⊢
  cases hdrop : tokens.dropWhile isOption with
  | nil =>
      simp only [hdrop, Except.ok.injEq] at hread hsplit ⊢
      refine ⟨.act action (tokens.takeWhile isOption) none, hread ▸ .onFirst hoptions, ?_⟩
      simp [Phrase.tokens, hsplit]
  | cons token rest =>
      have hoption : isOption token = false := by
        have hhead := List.head?_dropWhile_not isOption tokens
        simpa [hdrop] using hhead
      rw [hdrop] at hsplit
      simp only [hdrop] at hread ⊢
      cases hverb : isVerb token with
      | true =>
          simp only [hverb, if_true, Except.ok.injEq] at hread ⊢
          refine ⟨.act action (tokens.takeWhile isOption) none, hread ▸ .onFirst hoptions, ?_⟩
          simp [Phrase.tokens, hsplit]
      | false =>
          cases hselector : Selector.ofToken? token with
          | none => simp [hverb, hselector] at hread
          | some selector =>
              simp only [hverb, hselector, Bool.false_eq_true, if_false, Except.ok.injEq]
                at hread ⊢
              refine ⟨.act action (tokens.takeWhile isOption) (some token),
                hread ▸ .onSelected hoptions hoption hverb hselector, ?_⟩
              simp [Phrase.tokens, hsplit]

theorem read_eq_ok {verb : String} {tokens : List String} {command : Command}
    (hread : (read check verb tokens).outcome = .ok command) :
    ∃ phrase : Phrase, phrase.Denotes check command ∧
      verb :: tokens = phrase.tokens ++ (read check verb tokens).rest := by
  unfold read at hread ⊢
  split at hread
  · simp at hread
  next hoption =>
      rw [if_neg hoption]
      split at hread
      next hsearch =>
          rw [if_pos hsearch, hsearch]
          exact readSearch_eq_ok hread
      next hsearch =>
          rw [if_neg hsearch]
          split at hread
          next hactive =>
              rw [if_pos hactive, hactive]
              exact ⟨.activeWindow, Except.ok.inj hread ▸ .activeWindow, rfl⟩
          next hactive =>
              rw [if_neg hactive]
              split at hread
              next action haction =>
                  obtain rfl := Action.ofVerb?_eq_some_iff.mp haction
                  exact readAction_eq_ok hread
              next => simp at hread

/-- Every command line that is accepted is a chain of phrases. -/
theorem exists_cut_of_parseWith {tokens : List String} {commands : List Command}
    (hparse : parseWith check tokens = .ok commands) :
    ∃ phrases, Cut check tokens commands phrases := by
  induction tokens using parseWith.induct check generalizing commands with
  | case1 =>
      rw [parseWith, Except.ok.injEq] at hparse
      exact ⟨[], hparse ▸ .nil, rfl⟩
  | case2 verb tokens error herror =>
      rw [parseWith, herror] at hparse
      simp at hparse
  | case3 verb tokens command hcommand ih =>
      rw [parseWith, hcommand] at hparse
      obtain ⟨phrase, hphrase, htokens⟩ := read_eq_ok hcommand
      cases hrest : parseWith check (read check verb tokens).rest with
      | error error => simp [hrest, Except.map] at hparse
      | ok rest =>
          simp only [hrest, Except.map, Except.ok.injEq] at hparse
          obtain ⟨phrases, ⟨hphrases, hflat⟩⟩ := ih hrest
          exact ⟨phrase :: phrases, hparse ▸ .cons hphrase hphrases,
            by rw [List.flatMap_cons, hflat, htokens]⟩

/-! ## There is one cut -/

/-- The tokens of an action tell its options from its operand. -/
theorem takeWhile_options {options : List String} {operand : Option String}
    (hoptions : ∀ option ∈ options, isOption option)
    (hoperand : ∀ token ∈ operand, isOption token = false) :
    (options ++ operand.toList).takeWhile isOption = options := by
  rw [List.takeWhile_append_of_pos hoptions]
  cases operand with
  | none => simp
  | some token => simp [hoperand token rfl]

theorem Phrase.Denotes.isOption_operand {action : Action} {options : List String}
    {operand : Option String} {command : Command}
    (hphrase : (Phrase.act action options operand).Denotes check command) :
    (∀ option ∈ options, isOption option) ∧ ∀ token ∈ operand, isOption token = false := by
  cases hphrase with
  | onFirst hoptions => exact ⟨hoptions, by simp⟩
  | onSelected hoptions hoption => exact ⟨hoptions, by simpa using hoption⟩

/-- Different phrases for one command are written with different tokens. -/
theorem Phrase.Denotes.eq_of_tokens_eq {first second : Phrase} {command : Command}
    (hfirst : first.Denotes check command) (hsecond : second.Denotes check command)
    (htokens : first.tokens = second.tokens) : first = second := by
  cases first with
  | search term => cases hfirst; cases hsecond; rfl
  | activeWindow => cases hfirst; cases hsecond; rfl
  | act action options operand =>
      cases second with
      | search term => cases hsecond; cases hfirst
      | activeWindow => cases hsecond; cases hfirst
      | act action' options' operand' =>
          obtain ⟨hoptions, hoperand⟩ := hfirst.isOption_operand
          obtain ⟨hoptions', hoperand'⟩ := hsecond.isOption_operand
          obtain ⟨hverb, htail⟩ := List.cons.inj htokens
          obtain rfl : action' = action := by
            simpa [hverb] using Action.ofVerb?_verb action
          have hsame : options = options' := by
            rw [← takeWhile_options hoptions hoperand, htail, takeWhile_options hoptions' hoperand']
          subst hsame
          have hlast := congrArg List.head? (List.append_cancel_left htail)
          rw [Option.head?_toList, Option.head?_toList] at hlast
          rw [hlast]

/-- Two phrases that start the same tokens and are followed by commands are the same
phrase. -/
theorem Phrase.Denotes.append_inj {first second : Phrase} {command command' : Command}
    (hfirst : first.Denotes check command) (hsecond : second.Denotes check command')
    {rest rest' : List String} (hrest : StartsCommand rest) (hrest' : StartsCommand rest')
    (htokens : first.tokens ++ rest = second.tokens ++ rest') :
    first = second ∧ command = command' ∧ rest = rest' := by
  obtain ⟨verb, tail, hverb, hread⟩ := hfirst.read hrest
  obtain ⟨verb', tail', hverb', hread'⟩ := hsecond.read hrest'
  -- Both are what is read from the same tokens.
  rw [hverb, hverb', List.cons_append, List.cons_append, List.cons.injEq] at htokens
  rw [htokens.1, htokens.2, hread', Reading.mk.injEq, Except.ok.injEq] at hread
  obtain ⟨rfl, rfl⟩ := hread
  have hsame : first.tokens = second.tokens := by
    rw [hverb, hverb', htokens.1, List.append_cancel_right htokens.2]
  exact ⟨hfirst.eq_of_tokens_eq hsecond hsame, rfl, rfl⟩

theorem eq_of_flatMap_tokens_eq {phrases phrases' : List Phrase} {commands commands' : List Command}
    (hphrases : List.Forall₂ (Phrase.Denotes check) phrases commands)
    (hphrases' : List.Forall₂ (Phrase.Denotes check) phrases' commands')
    (htokens : phrases.flatMap Phrase.tokens = phrases'.flatMap Phrase.tokens) :
    phrases = phrases' ∧ commands = commands' := by
  induction hphrases generalizing phrases' commands' with
  | nil =>
      cases hphrases' with
      | nil => exact ⟨rfl, rfl⟩
      | @cons phrase => cases phrase <;> simp [Phrase.tokens] at htokens
  | @cons phrase command phrases commands hphrase _ ih =>
      cases hphrases' with
      | nil => cases phrase <;> simp [Phrase.tokens] at htokens
      | @cons phrase' command' phrases' commands' hphrase' hrest' =>
          rw [List.flatMap_cons, List.flatMap_cons] at htokens
          obtain ⟨rfl, rfl, htail⟩ := hphrase.append_inj hphrase'
            (startsCommand_flatMap phrases) (startsCommand_flatMap phrases') htokens
          obtain ⟨rfl, rfl⟩ := ih hrest' htail
          exact ⟨rfl, rfl⟩

/-- Reading accepts exactly the command lines that can be cut into phrases, and
gives the commands that the phrases stand for. No command line can be cut in two
ways. -/
theorem parseWith_eq_ok_iff_cut (check : TermCheck) (tokens : List String) :
    (∀ commands, parseWith check tokens = .ok commands ↔
      ∃ phrases, Cut check tokens commands phrases) ∧
    ∀ commands commands' phrases phrases', Cut check tokens commands phrases →
      Cut check tokens commands' phrases' → phrases = phrases' ∧ commands = commands' := by
  refine ⟨fun commands => ⟨exists_cut_of_parseWith, ?_⟩, ?_⟩
  · rintro ⟨phrases, hdenotes, rfl⟩
    exact parseWith_of_denotes hdenotes
  · rintro commands commands' phrases phrases' ⟨hdenotes, htokens⟩ ⟨hdenotes', rfl⟩
    exact eq_of_flatMap_tokens_eq hdenotes hdenotes' htokens

/-- A verb is taken for a search term, and ends an action after its options. -/
theorem parseWith_cut_verbs :
    parseWith (fun _ => none) ["search", "search", "windowclose", "-f", "%2", "windowkill", "-",
        "getactivewindow"] =
      .ok [.search "search", .act .close (.index 2), .act .kill (.index 1), .activeWindow] ∧
    ∀ commands phrases,
      Cut (fun _ => none) ["search", "search", "windowclose", "-f", "%2", "windowkill", "-",
          "getactivewindow"] commands phrases →
        phrases = [.search "search", .act .close ["-f"] (some "%2"), .act .kill ["-"] none,
          .activeWindow] := by
  have hcut : Cut (fun _ => none)
      ["search", "search", "windowclose", "-f", "%2", "windowkill", "-", "getactivewindow"]
      [.search "search", .act .close (.index 2), .act .kill (.index 1), .activeWindow]
      [.search "search", .act .close ["-f"] (some "%2"), .act .kill ["-"] none,
        .activeWindow] := by
    refine ⟨.cons (.search (by decide) rfl) (.cons (.onSelected ?_ ?_ ?_ ?_)
      (.cons (.onFirst ?_) (.cons .activeWindow .nil))), rfl⟩ <;> decide
  obtain ⟨haccepts, hunique⟩ := parseWith_eq_ok_iff_cut (fun _ => none)
    ["search", "search", "windowclose", "-f", "%2", "windowkill", "-", "getactivewindow"]
  exact ⟨(haccepts _).mpr ⟨_, hcut⟩,
    fun commands phrases hother => (hunique _ _ _ _ hother hcut).1⟩

end Command

end WindowScript
