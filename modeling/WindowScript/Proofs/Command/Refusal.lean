/-
# Where a command line is refused

Reading stops at the first error, and the error names a token. The reader looks at
no more than one token ahead, so an error that names a token was decided by the
tokens up to it, and nothing that follows can change it. The one error without a
token is found at the end: a search that still waits for its term, which more
tokens may supply.

The named token is the last one that was used up. The error about a missing term
is the exception again: the option that stands in the place of the term is looked
at and left.
-/

import WindowScript.Proofs.Command.Composition

namespace WindowScript.Command

/-! ## The place of an error -/

/-- The tokens that are left where reading ends, at its first error or at the end of
the command line. -/
def unread (check : TermCheck) : List String → List String
  | [] => []
  | verb :: tokens =>
      match (read check verb tokens).outcome with
      | .error _ => (read check verb tokens).rest
      | .ok _ => unread check (read check verb tokens).rest
termination_by tokens => tokens.length
decreasing_by exact Nat.lt_succ_of_le (length_read_le check verb tokens)

/-- What an error says about the place where reading stopped, between the tokens that
were used up and those that were left. -/
inductive Error.Marks (consumed left : List String) : Error → Prop
  | last {error : Error} {token : String} (hmissing : ∀ next, error ≠ .missingTerm next)
      (htoken : error.token? = some token) (hlast : consumed.getLast? = some token) :
      Marks consumed left error
  | next {next : Option String} (hlast : consumed.getLast? = some "search")
      (hnext : left.head? = next) (hoption : ∀ token ∈ next, isOption token) :
      Marks consumed left (.missingTerm next)

theorem Error.Marks.append_left {consumed left : List String} {error : Error}
    (hmarks : error.Marks consumed left) (before : List String) :
    error.Marks (before ++ consumed) left := by
  cases hmarks with
  | last hmissing htoken hlast =>
      exact .last hmissing htoken (by rw [List.getLast?_append, hlast, Option.some_or])
  | next hlast hnext hoption =>
      exact .next (by rw [List.getLast?_append, hlast, Option.some_or]) hnext hoption

theorem ofList_append_ne {c d : Char} (hne : c ≠ d) {cs ds : List Char} {text : String} :
    String.ofList (c :: cs) ++ text ≠ String.ofList (d :: ds) := by
  intro heq
  have hchars := congrArg String.toList heq
  rw [String.toList_append, String.toList_ofList, String.toList_ofList, List.cons_append] at hchars
  exact hne (List.cons.inj hchars).1

/-- The error about a missing term is known by its message. -/
theorem Error.message_eq_missing_iff {error : Error} :
    error.message = "missing search term" ↔ ∃ next, error = .missingTerm next := by
  constructor
  · intro hmessage
    unfold Error.message at hmessage
    cases error with
    | missingTerm next => exact ⟨next, rfl⟩
    | invalidTerm term fault =>
        simp only [String.append_assoc] at hmessage
        exact absurd hmessage (by with_reducible exact ofList_append_ne (by decide))
    | _ =>
        dsimp only at hmessage
        exact absurd hmessage (by with_reducible exact ofList_append_ne (by decide))
  · rintro ⟨next, rfl⟩
    rfl

theorem Error.token?_eq_none_iff {error : Error} :
    error.token? = none ↔ error = .missingTerm none := by
  cases error <;> simp [Error.token?]

/-! ## One reading -/

variable {check : TermCheck} {verb : String} {tokens : List String} {error : Error}

theorem readSearch_eq_error (hread : (readSearch check tokens).outcome = .error error) :
    (∃ next, error = .missingTerm next ∧ (readSearch check tokens).rest = tokens ∧
      tokens.head? = next ∧ ∀ token ∈ next, isOption token) ∨
    ∃ token, tokens = token :: (readSearch check tokens).rest ∧
      error.token? = some token ∧ ∀ next, error ≠ .missingTerm next := by
  cases tokens with
  | nil =>
      simp only [readSearch, Except.error.injEq] at hread
      exact .inl ⟨none, hread.symm, rfl, rfl, by simp⟩
  | cons token rest =>
      cases hoption : isOption token with
      | true =>
          rw [readSearch, if_pos hoption] at hread ⊢
          exact .inl ⟨some token, (Except.error.inj hread).symm, rfl, rfl, by simpa using hoption⟩
      | false =>
          cases hterm : check token with
          | none => simp [readSearch, hoption, hterm] at hread
          | some fault =>
              simp only [readSearch, hoption, hterm, Bool.false_eq_true, if_false,
                Except.error.injEq] at hread ⊢
              subst hread
              exact .inr ⟨token, rfl, rfl, by simp⟩

theorem readAction_eq_error {action : Action}
    (hread : (readAction action tokens).outcome = .error error) :
    ∃ options token, tokens = options ++ token :: (readAction action tokens).rest ∧
      error = .invalidSelector token := by
  have hsplit := List.takeWhile_append_dropWhile (p := isOption) (l := tokens)
  unfold readAction at hread ⊢
  cases hdrop : tokens.dropWhile isOption with
  | nil => simp [hdrop] at hread
  | cons token rest =>
      rw [hdrop] at hsplit
      simp only [hdrop] at hread ⊢
      cases hverb : isVerb token with
      | true => simp [hverb] at hread
      | false =>
          cases hselector : Selector.ofToken? token with
          | some selector => simp [hverb, hselector] at hread
          | none =>
              simp only [hverb, hselector, Bool.false_eq_true, if_false, Except.error.injEq]
                at hread ⊢
              exact ⟨_, token, hsplit.symm, hread.symm⟩

/-- A reading that fails has stopped right after the token that it names, or right
after a search. -/
theorem read_eq_error (hread : (read check verb tokens).outcome = .error error) :
    (∃ next, error = .missingTerm next ∧ verb = "search" ∧
      (read check verb tokens).rest = tokens ∧ tokens.head? = next ∧
      ∀ token ∈ next, isOption token) ∨
    ∃ taken token, verb :: tokens = taken ++ token :: (read check verb tokens).rest ∧
      error.token? = some token ∧ ∀ next, error ≠ .missingTerm next := by
  unfold read at hread ⊢
  split at hread
  next hoption =>
      rw [if_pos hoption]
      rw [Except.error.injEq] at hread
      subst hread
      exact .inr ⟨[], verb, rfl, rfl, by simp⟩
  next hoption =>
      rw [if_neg hoption]
      split at hread
      next hsearch =>
          rw [if_pos hsearch]
          rcases readSearch_eq_error hread with
            ⟨next, herror, hrest, hnext⟩ | ⟨token, htokens, herror⟩
          · exact .inl ⟨next, herror, hsearch, hrest, hnext⟩
          · exact .inr ⟨[verb], token, congrArg (verb :: ·) htokens, herror⟩
      next hsearch =>
          rw [if_neg hsearch]
          split at hread
          next => simp at hread
          next hactive =>
              rw [if_neg hactive]
              split at hread
              next action haction =>
                  obtain ⟨options, token, htokens, rfl⟩ := readAction_eq_error hread
                  exact .inr ⟨verb :: options, token, congrArg (verb :: ·) htokens, rfl, by simp⟩
              next =>
                  rw [Except.error.injEq] at hread
                  subst hread
                  exact .inr ⟨[], verb, rfl, rfl, by simp⟩

/-- A reading that no further token can change: it left some token unread, or it
failed at a token. -/
def Reading.Decided (reading : Reading) : Prop :=
  reading.rest ≠ [] ∨ ∃ error, reading.outcome = .error error ∧ error.token? ≠ none

/-- The same reading with more tokens behind it. -/
def Reading.extend (reading : Reading) (more : List String) : Reading :=
  ⟨reading.outcome, reading.rest ++ more⟩

theorem readSearch_append (hdecided : (readSearch check tokens).Decided) (more : List String) :
    readSearch check (tokens ++ more) = (readSearch check tokens).extend more := by
  cases tokens with
  | nil =>
      rcases hdecided with hrest | ⟨error, herror, htoken⟩
      · exact absurd rfl hrest
      · obtain rfl := Except.error.inj herror
        exact absurd rfl htoken
  | cons token rest =>
      rw [List.cons_append, readSearch, readSearch]
      split
      · rfl
      · split <;> rfl

theorem readAction_append {action : Action} (hdecided : (readAction action tokens).Decided)
    (more : List String) :
    readAction action (tokens ++ more) = (readAction action tokens).extend more := by
  unfold readAction at hdecided ⊢
  rw [List.dropWhile_append]
  cases hdrop : tokens.dropWhile isOption with
  | nil =>
      -- The action still looks for an operand, and so nothing is decided.
      simp [hdrop, Reading.Decided] at hdecided
  | cons token rest =>
      simp only [List.isEmpty_cons, Bool.false_eq_true, if_false, List.cons_append]
      split
      · rfl
      · split <;> rfl

/-- A reading that is decided does not depend on what follows. -/
theorem read_append (hdecided : (read check verb tokens).Decided) (more : List String) :
    read check verb (tokens ++ more) = (read check verb tokens).extend more := by
  unfold read at hdecided ⊢
  split
  · rfl
  next hoption =>
      rw [if_neg hoption] at hdecided
      split
      next hsearch =>
          rw [if_pos hsearch] at hdecided
          exact readSearch_append hdecided more
      next hsearch =>
          rw [if_neg hsearch] at hdecided
          split
          · rfl
          next hactive =>
              rw [if_neg hactive] at hdecided
              split
              next action haction =>
                  simp only [haction] at hdecided
                  exact readAction_append hdecided more
              · rfl

/-! ## Whole command lines -/

/-- How a command line comes to be refused: some readings succeed, and the next one
fails. -/
inductive Refused (check : TermCheck) (error : Error) : List String → Prop
  | failed {verb : String} {tokens : List String}
      (hread : (read check verb tokens).outcome = .error error) :
      Refused check error (verb :: tokens)
  | passed {verb : String} {tokens : List String} {command : Command}
      (hread : (read check verb tokens).outcome = .ok command)
      (hrest : Refused check error (read check verb tokens).rest) :
      Refused check error (verb :: tokens)

theorem refused_of_parseWith (hparse : parseWith check tokens = .error error) :
    Refused check error tokens := by
  induction tokens using parseWith.induct check with
  | case1 => simp [parseWith] at hparse
  | case2 verb tokens failure hfailure =>
      rw [parseWith, hfailure, Except.error.injEq] at hparse
      exact .failed (hparse ▸ hfailure)
  | case3 verb tokens command hcommand ih =>
      rw [parseWith, hcommand] at hparse
      cases hrest : parseWith check (read check verb tokens).rest with
      | ok commands => simp [hrest, Except.map] at hparse
      | error failure =>
          simp only [hrest, Except.map, Except.error.injEq] at hparse
          exact .passed hcommand (ih (hrest.trans (congrArg _ hparse)))

theorem Refused.ne_nil (hrefused : Refused check error tokens) : tokens ≠ [] := by
  cases hrefused <;> simp

/-- An error that names a token stays, whatever follows. -/
theorem Refused.parseWith_append (hrefused : Refused check error tokens)
    (htoken : error.token? ≠ none) (more : List String) :
    parseWith check (tokens ++ more) = .error error := by
  induction hrefused with
  | failed hread =>
      rw [List.cons_append, parseWith, read_append (.inr ⟨error, hread, htoken⟩)]
      simp only [Reading.extend, hread]
  | passed hread hrest ih =>
      -- An error lies ahead, so this reading has left something unread.
      rw [List.cons_append, parseWith, read_append (.inl hrest.ne_nil)]
      simp only [Reading.extend, hread, ih]
      rfl

/-- An error marks the place where reading stopped. -/
theorem Refused.exists_consumed (hrefused : Refused check error tokens) :
    ∃ consumed, tokens = consumed ++ unread check tokens ∧
      error.Marks consumed (unread check tokens) := by
  induction hrefused with
  | @failed verb tokens hread =>
      rw [unread, hread]
      dsimp only
      rcases read_eq_error hread with
        ⟨next, rfl, rfl, hrest, hnext, hoption⟩ | ⟨taken, token, htokens, htoken, hmissing⟩
      · rw [hrest]
        exact ⟨["search"], rfl, .next rfl hnext hoption⟩
      · refine ⟨taken ++ [token], by rw [htokens, List.append_cons], ?_⟩
        exact .last hmissing htoken List.getLast?_concat
  | @passed verb tokens command hread hrest ih =>
      rw [unread, hread]
      dsimp only
      obtain ⟨phrase, -, htokens⟩ := read_eq_ok hread
      obtain ⟨consumed, hconsumed, hmarks⟩ := ih
      refine ⟨phrase.tokens ++ consumed, ?_, hmarks.append_left phrase.tokens⟩
      rw [List.append_assoc, ← hconsumed, htokens]

/-- An error without a token is about a search at the very end, behind complete
commands. -/
theorem Refused.exists_before (hrefused : Refused check (.missingTerm none) tokens) :
    ∃ before commands, parseWith check before = .ok commands ∧ tokens = before ++ ["search"] := by
  induction hrefused with
  | @failed verb tokens hread =>
      rcases read_eq_error hread with
        ⟨next, hnone, rfl, -, hnext, -⟩ | ⟨taken, token, -, htoken, -⟩
      · obtain rfl := Error.missingTerm.inj hnone
        obtain rfl := List.head?_eq_none_iff.mp hnext
        exact ⟨[], [], by rw [parseWith], rfl⟩
      · simp [Error.token?] at htoken
  | @passed verb tokens command hread hrest ih =>
      obtain ⟨phrase, hphrase, htokens⟩ := read_eq_ok hread
      obtain ⟨before, commands, hbefore, hsearch⟩ := ih
      obtain ⟨phrases, -, rfl⟩ := exists_cut_of_parseWith hbefore
      refine ⟨phrase.tokens ++ phrases.flatMap Phrase.tokens, command :: commands, ?_, ?_⟩
      · rw [parseWith_tokens_append hphrase (startsCommand_flatMap phrases), hbefore]
        rfl
      · rw [htokens, hsearch, List.append_assoc]

theorem parse_append_search {before : List String} {commands : List Command}
    (hbefore : parse before = .ok commands) :
    parse (before ++ ["search"]) = .error (.missingTerm none) := by
  have hsearch : StartsCommand ["search"] := by simp [StartsCommand, isVerb]
  rw [parse_append_eq_error_iff hbefore hsearch, parse, parseWith]
  rfl

/-- When a command line is refused with an error that names a token, it is refused with
the same error however it goes on, and so is compiling it for every target. An error
names no token exactly if a term is missing because the command line ends right after a
search that stands where a command starts. Otherwise the named token is one of the
command line: the last one that was used up or, where a term is missing, the option that
comes next and was not used up. -/
theorem parse_error_stable (hparse : parse tokens = .error error) :
    (error.token? ≠ none → ∀ more, parse (tokens ++ more) = .error error ∧
      ∀ target, Script.compile target (tokens ++ more) = .error error) ∧
    (error.token? = none ↔ error.message = "missing search term" ∧
      ∃ before commands, parse before = .ok commands ∧ tokens = before ++ ["search"]) ∧
    ∀ token, error.token? = some token → token ∈ tokens ∧
      ∃ consumed, tokens = consumed ++ unread Pattern.fault? tokens ∧
        if error.message = "missing search term" then
          (unread Pattern.fault? tokens).head? = some token ∧ isOption token
        else consumed.getLast? = some token := by
  have hrefused : Refused Pattern.fault? error tokens := refused_of_parseWith hparse
  refine ⟨fun htoken more => ?_, ⟨fun hnone => ?_, ?_⟩, fun token htoken => ?_⟩
  · have hmore : parse (tokens ++ more) = .error error := hrefused.parseWith_append htoken more
    exact ⟨hmore, fun target => Script.compile_eq_error_iff.mpr hmore⟩
  · obtain rfl := Error.token?_eq_none_iff.mp hnone
    exact ⟨rfl, hrefused.exists_before⟩
  · rintro ⟨-, before, commands, hbefore, rfl⟩
    rw [parse_append_search hbefore, Except.error.injEq] at hparse
    rw [← hparse]
    rfl
  · obtain ⟨consumed, htokens, hmarks⟩ := hrefused.exists_consumed
    cases hmarks with
    | last hmissing hnamed hlast =>
        obtain rfl := Option.some.inj (hnamed.symm.trans htoken)
        have hmessage : error.message ≠ "missing search term" := fun hmessage =>
          have ⟨next, hnext⟩ := Error.message_eq_missing_iff.mp hmessage
          hmissing next hnext
        refine ⟨?_, consumed, htokens, by rwa [if_neg hmessage]⟩
        rw [htokens]
        exact List.mem_append_left _ (List.mem_of_getLast? hlast)
    | @next next hlast hnext hoption =>
        obtain rfl : next = some token := htoken
        refine ⟨?_, consumed, htokens, ?_⟩
        · rw [htokens]
          exact List.mem_append_right _ (List.mem_of_head? hnext)
        · have hmessage : (Error.missingTerm (some token)).message = "missing search term" := rfl
          rw [if_pos hmessage]
          exact ⟨hnext, hoption token rfl⟩

/-- A token that no selector is, after a skipped option, and an option where a search
term should be. -/
theorem parse_error_stable_operands :
    (parse ["windowclose", "-f", "%x"] = .error (.invalidSelector "%x") ∧
      ∀ more, parse (["windowclose", "-f", "%x"] ++ more) = .error (.invalidSelector "%x")) ∧
    parse ["windowkill", "search", "--any"] = .error (.missingTerm (some "--any")) ∧
      ∃ consumed, ["windowkill", "search", "--any"] =
          consumed ++ unread Pattern.fault? ["windowkill", "search", "--any"] ∧
        (unread Pattern.fault? ["windowkill", "search", "--any"]).head? = some "--any" := by
  have hselector : parse ["windowclose", "-f", "%x"] = .error (.invalidSelector "%x") := by
    rw [parse, parseWith]
    rfl
  have hkill : read Pattern.fault? "windowkill" ["search", "--any"] =
      ⟨.ok (.act .kill .first), ["search", "--any"]⟩ := rfl
  have hterm : parse ["windowkill", "search", "--any"] = .error (.missingTerm (some "--any")) := by
    rw [parse, parseWith, hkill]
    dsimp only
    rw [parseWith]
    rfl
  have hmessage : (Error.missingTerm (some "--any")).message = "missing search term" := rfl
  obtain ⟨hstable, -, -⟩ := parse_error_stable hselector
  obtain ⟨-, -, hnamed⟩ := parse_error_stable hterm
  obtain ⟨-, consumed, hconsumed, hplace⟩ := hnamed "--any" rfl
  rw [if_pos hmessage] at hplace
  exact ⟨⟨hselector, fun more => (hstable (by simp [Error.token?]) more).1⟩, hterm,
    consumed, hconsumed, hplace.1⟩

end WindowScript.Command
