/-
# Reading on after errors

A caller may go on after an error. The reader stands at a cursor in the command line
then, and the next call starts there, in the middle of what was refused. Still every
token is used up by exactly one call. A call that finds a token uses up at least that
one, whether it succeeds or fails, and it moves the cursor over tokens of the command
line only. So the cursor comes to the end, and a caller that stops there has made at
most one call for each token and one more to find the end.

What a call leaves is a list of tokens. That it is what stands behind a cursor, and that
the cursor has moved, is the one step. All else is what any number of such steps add
up to.
-/

import WindowScript.Proofs.Command.Refusal

namespace WindowScript.Command

/-! ## One call -/

/-- A call of the reader: it finds the end, or reads the next command. -/
def attempt (check : TermCheck) : List String → Attempt
  | [] => .done
  | verb :: tokens => .tried (read check verb tokens)

/-- Whether a caller who goes on after errors stops here: the end was found, or an error
came with nothing left behind it. -/
def Attempt.isLast : Attempt → Bool
  | .done => true
  | .tried ⟨.error _, []⟩ => true
  | .tried _ => false

theorem Attempt.ne_done_of_not_isLast {attempt : Attempt} (hlast : ¬attempt.isLast) :
    attempt ≠ .done := by
  rintro rfl
  exact hlast rfl

theorem Attempt.rest_eq_nil_of_isLast {attempt : Attempt} (hlast : attempt.isLast) :
    attempt.rest = [] := by
  unfold Attempt.isLast at hlast
  split at hlast
  · rfl
  · rfl
  · simp at hlast

variable {check : TermCheck} {line left : List String} {calls : ℕ}

theorem attempt_eq_done_iff : attempt check left = .done ↔ left = [] := by
  cases left <;> simp [attempt]

/-- A reading uses up tokens from the front, also when it fails. -/
theorem read_rest_suffix (check : TermCheck) (verb : String) (tokens : List String) :
    (read check verb tokens).rest <:+ verb :: tokens := by
  cases hread : (read check verb tokens).outcome with
  | ok command =>
      obtain ⟨phrase, -, htokens⟩ := read_eq_ok hread
      exact ⟨phrase.tokens, htokens.symm⟩
  | error error =>
      rcases read_eq_error hread with ⟨next, -, -, hrest, -, -⟩ | ⟨taken, token, htokens, -, -⟩
      · -- Only the search itself is used up: what stands behind it was looked at and left.
        rw [hrest]
        exact List.suffix_cons verb tokens
      · exact ⟨taken ++ [token], by rw [htokens, List.append_assoc, List.singleton_append]⟩

theorem attempt_rest_suffix (check : TermCheck) (left : List String) :
    (attempt check left).rest <:+ left := by
  cases left with
  | nil => exact List.suffix_refl []
  | cons verb tokens => exact read_rest_suffix check verb tokens

theorem length_attempt_rest_lt (check : TermCheck) (hleft : left ≠ []) :
    (attempt check left).rest.length < left.length := by
  obtain ⟨verb, tokens, rfl⟩ := List.exists_cons_of_ne_nil hleft
  exact Nat.lt_succ_of_le (length_read_le check verb tokens)

/-! ## The cursor -/

/-- How many tokens of a command line some calls have used up. Each call starts where
the calls before it came to. -/
def cursor (check : TermCheck) (line : List String) : ℕ → ℕ
  | 0 => 0
  | calls + 1 =>
      let left := line.drop (cursor check line calls)
      cursor check line calls + (left.length - (attempt check left).rest.length)

/-- The call that comes after some calls. -/
def callAt (check : TermCheck) (line : List String) (calls : ℕ) : Attempt :=
  attempt check (line.drop (cursor check line calls))

/-- The tokens that the call after some calls uses up. -/
def segment (check : TermCheck) (line : List String) (calls : ℕ) : List String :=
  line.extract (cursor check line calls) (cursor check line (calls + 1))

/-- What a call leaves is what the next call finds at its cursor. -/
theorem callAt_rest (check : TermCheck) (line : List String) (calls : ℕ) :
    (callAt check line calls).rest = line.drop (cursor check line (calls + 1)) := by
  have hsuffix := attempt_rest_suffix check (line.drop (cursor check line calls))
  rw [cursor, ← List.drop_drop]
  exact List.suffix_iff_eq_drop.mp hsuffix

theorem cursor_le_length (check : TermCheck) (line : List String) (calls : ℕ) :
    cursor check line calls ≤ line.length := by
  induction calls with
  | zero => exact Nat.zero_le _
  | succ calls ih =>
      rw [cursor, List.length_drop]
      omega

theorem drop_cursor_eq_nil_iff :
    line.drop (cursor check line calls) = [] ↔ cursor check line calls = line.length := by
  rw [List.drop_eq_nil_iff]
  have hle := cursor_le_length check line calls
  omega

/-- A call that is not at the end moves the cursor. -/
theorem cursor_lt_cursor_succ (hcursor : cursor check line calls < line.length) :
    cursor check line calls < cursor check line (calls + 1) := by
  have hleft : line.drop (cursor check line calls) ≠ [] :=
    fun hnil => Nat.ne_of_lt hcursor (drop_cursor_eq_nil_iff.mp hnil)
  have hlength := length_attempt_rest_lt check hleft
  rw [cursor]
  omega

theorem callAt_eq_done_iff :
    callAt check line calls = .done ↔ cursor check line calls = line.length := by
  rw [callAt, attempt_eq_done_iff, drop_cursor_eq_nil_iff]

theorem cursor_lt_length_iff :
    cursor check line calls < line.length ↔ callAt check line calls ≠ .done := by
  rw [ne_eq, callAt_eq_done_iff]
  have hle := cursor_le_length check line calls
  omega

/-- Where a caller stops, the cursor is at the end. -/
theorem cursor_succ_of_isLast (hlast : (callAt check line calls).isLast) :
    cursor check line (calls + 1) = line.length := by
  rw [← drop_cursor_eq_nil_iff, ← callAt_rest]
  exact Attempt.rest_eq_nil_of_isLast hlast

theorem cursor_succ_of_eq_length (hcursor : cursor check line calls = line.length) :
    cursor check line (calls + 1) = line.length := by
  apply cursor_succ_of_isLast
  rw [callAt_eq_done_iff.mpr hcursor]
  rfl

theorem cursor_le_cursor_succ (check : TermCheck) (line : List String) (calls : ℕ) :
    cursor check line calls ≤ cursor check line (calls + 1) := by
  rw [cursor]
  exact Nat.le_add_right _ _

/-- The tokens that some calls use up one after another are those before the cursor. -/
theorem flatMap_segment (check : TermCheck) (line : List String) (calls : ℕ) :
    (List.range calls).flatMap (segment check line) = line.take (cursor check line calls) := by
  induction calls with
  | zero => rfl
  | succ calls ih =>
      have hmove := Nat.add_sub_of_le (cursor_le_cursor_succ check line calls)
      calc
        (List.range (calls + 1)).flatMap (segment check line)
          = line.take (cursor check line calls) ++ segment check line calls := by
            rw [List.range_succ, List.flatMap_append, ih, List.flatMap_singleton]
        _ = line.take (cursor check line (calls + 1)) := by
            rw [segment, List.extract_eq_take_drop, ← List.take_add, hmove]

/-! ## A caller who goes on after errors -/

theorem attempts_eq (check : TermCheck) (left : List String) :
    attempts check left = attempt check left ::
      if (attempt check left).isLast then [] else attempts check (attempt check left).rest := by
  cases left with
  | nil =>
      rw [attempts]
      rfl
  | cons verb tokens =>
      rw [attempts, attempt]
      rcases read check verb tokens with ⟨_ | _, _ | _⟩ <;> rfl

/-- From any cursor on, the caller makes the calls up to the first one that is the
last. -/
theorem attempts_drop_cursor (check : TermCheck) (line : List String) (calls : ℕ) :
    ∃ more, attempts check (line.drop (cursor check line calls)) =
        (List.range' calls (more + 1)).map (callAt check line) ∧
      ∀ call, calls ≤ call → call ≤ calls + more →
        ((callAt check line call).isLast ↔ call = calls + more) := by
  -- On what is left behind the cursor: every call but the last one makes it less.
  induction hleft : line.length - cursor check line calls using Nat.strong_induction_on
    generalizing calls with
  | h length ih =>
      rw [attempts_eq, ← callAt]
      cases hlast : (callAt check line calls).isLast with
      | true =>
          refine ⟨0, rfl, fun call hle hge => ?_⟩
          obtain rfl : call = calls := Nat.le_antisymm hge hle
          simp [hlast]
      | false =>
          have hdone := Attempt.ne_done_of_not_isLast (Bool.eq_false_iff.mp hlast)
          have hcursor := cursor_lt_length_iff.mpr hdone
          have hmove := cursor_lt_cursor_succ hcursor
          obtain ⟨more, hmore, hstop⟩ := ih _ (by omega) (calls + 1) rfl
          refine ⟨more + 1, ?_, fun call hle hge => ?_⟩
          · rw [callAt_rest, hmore, List.range'_succ, List.map_cons]
            rfl
          · rcases Nat.eq_or_lt_of_le hle with rfl | hlater
            · simp [hlast]
            · rw [hstop call hlater (by omega)]
              omega

/-- As long as the end is not found, each call has used up a token. -/
theorem le_cursor (hrunning : ∀ call < calls, callAt check line call ≠ .done) :
    calls ≤ cursor check line calls := by
  induction calls with
  | zero => exact Nat.zero_le _
  | succ calls ih =>
      have hbefore := ih fun call hcall => hrunning call (Nat.lt_succ_of_lt hcall)
      have hcursor := cursor_lt_length_iff.mpr (hrunning calls (Nat.lt_succ_self calls))
      have hmove := cursor_lt_cursor_succ hcursor
      omega

/-- However often the reader is called on one command line, after errors too, its cursor
stays within the command line, and what one call leaves the next one finds. A call answers
that the end is reached exactly if the cursor was there, and leaves it there; any other
call moves the cursor on. A caller who stops when told of the end, or at an error with
nothing left, makes at most one call more than there are tokens, and the cursor is at the
end then. What these calls used up, one after another, is the command line. -/
theorem attempts_use_up_line (check : TermCheck) (line : List String) :
    (∀ calls, cursor check line calls ≤ line.length ∧
      (callAt check line calls).rest = line.drop (cursor check line (calls + 1)) ∧
      (cursor check line calls < line.length →
        cursor check line calls < cursor check line (calls + 1)) ∧
      (callAt check line calls = .done ↔ cursor check line calls = line.length) ∧
      (cursor check line calls = line.length → cursor check line (calls + 1) = line.length)) ∧
    ∃ calls ≤ line.length + 1,
      attempts check line = (List.range calls).map (callAt check line) ∧
      (∀ call < calls, (callAt check line call).isLast ↔ call + 1 = calls) ∧
      cursor check line calls = line.length ∧
      (List.range calls).flatMap (segment check line) = line := by
  refine ⟨fun calls => ⟨cursor_le_length check line calls, callAt_rest check line calls,
    cursor_lt_cursor_succ, callAt_eq_done_iff, cursor_succ_of_eq_length⟩, ?_⟩
  obtain ⟨last, hattempts, hstop⟩ := attempts_drop_cursor check line 0
  rw [Nat.zero_add] at hstop
  have hrunning : ∀ call < last, callAt check line call ≠ .done := by
    intro call hcall
    apply Attempt.ne_done_of_not_isLast
    rw [hstop call (Nat.zero_le _) (Nat.le_of_lt hcall)]
    exact Nat.ne_of_lt hcall
  have hend : cursor check line (last + 1) = line.length :=
    cursor_succ_of_isLast ((hstop last (Nat.zero_le _) (Nat.le_refl _)).mpr rfl)
  refine ⟨last + 1, ?_, ?_, fun call hcall => ?_, hend, ?_⟩
  · exact Nat.succ_le_succ ((le_cursor hrunning).trans (cursor_le_length check line last))
  · rw [List.range_eq_range']
    exact hattempts
  · rw [hstop call (Nat.zero_le _) (Nat.le_of_lt_succ hcall), Nat.add_right_cancel_iff]
  · rw [flatMap_segment, hend, List.take_length]

/-- Every kind of error on one command line: an option in the place of a command, and in
that of a term; a bad operand behind an option; a bad pattern; an unknown word; and a
search at the very end. -/
theorem attempts_use_up_line_errors :
    let line := ["-x", "search", "--any", "windowclose", "-f", "%x", "search", "(", "nope",
      "windowraise", "-f", "getactivewindow", "search"]
    (List.range 9).map (segment Pattern.fault? line) =
        [["-x"], ["search"], ["--any"], ["windowclose", "-f", "%x"], ["search", "("], ["nope"],
          ["windowraise", "-f"], ["getactivewindow"], ["search"]] ∧
      (attempts Pattern.fault? line).length = 9 ∧
      cursor Pattern.fault? line 9 = line.length ∧
      (List.range 9).flatMap (segment Pattern.fault? line) = line := by
  intro line
  have hlength : (attempts Pattern.fault? line).length = 9 := by decide +kernel
  obtain ⟨-, calls, -, hattempts, -, hend, hline⟩ := attempts_use_up_line Pattern.fault? line
  obtain rfl : calls = 9 := by rw [← hlength, hattempts, List.length_map, List.length_range]
  exact ⟨by decide +kernel, hlength, hend, hline⟩

end WindowScript.Command
