/-
# What stripping removes

Stripping is described by the sequences it removes. A control sequence holds
parameters and a letter, so it ends on the line where it starts. A system command
holds anything but a bell, line feeds included, so a text that starts one and does
not end it is open to what follows. `LeavesOpen` says so, and it is the only way
in which the text before a line feed, or before any other character that `Divides`,
and the text after it can meet.
-/

import Mathlib.Data.List.TakeWhile
import WindowScript.Terminal.Escape

namespace WindowScript.Terminal

/-- A complete sequence, without its escape character. -/
inductive Sequence : List Char → Prop
  | control (parameters : List Char) {letter : Char}
      (hparameters : ∀ c ∈ parameters, isParameter c) (hletter : letter.isAlpha) :
      Sequence ('[' :: (parameters ++ [letter]))
  | system {command : List Char} (hcommand : bell ∉ command) :
      Sequence (']' :: (command ++ [bell]))

theorem not_isParameter_of_isAlpha {c : Char} (hc : c.isAlpha) : ¬ isParameter c := by
  intro hparameter
  simp only [isParameter, Char.isDigit, Bool.or_eq_true, Bool.and_eq_true, decide_eq_true_eq,
    ge_iff_le, UInt32.le_iff_toNat_le] at hparameter
  delta Char.isAlpha Char.isUpper Char.isLower at hc
  simp only [Bool.or_eq_true, Bool.and_eq_true, decide_eq_true_eq, ge_iff_le,
    UInt32.le_iff_toNat_le] at hc
  rcases hparameter with (hdigit | rfl) | rfl
  · simp at hc hdigit
    omega
  · simp at hc
  · simp at hc

/-- The characters of a control sequence are a bracket, parameters and a letter. -/
theorem not_mem_control {letter : Char} {parameters : List Char}
    (hparameters : ∀ c ∈ parameters, isParameter c) (hletter : letter.isAlpha) (c : Char)
    (hc : c ≠ '[' ∧ ¬ isParameter c ∧ ¬ c.isAlpha) :
    c ∉ '[' :: (parameters ++ [letter]) := by
  intro hmem
  rw [List.mem_cons, List.mem_append, List.mem_singleton] at hmem
  rcases hmem with heq | hmem | rfl
  · exact hc.1 heq
  · exact hc.2.1 (hparameters c hmem)
  · exact hc.2.2 hletter

theorem dropWhile_ne_bell {command : List Char} (hcommand : bell ∉ command)
    (rest : List Char) :
    (command ++ bell :: rest).dropWhile (· ≠ bell) = bell :: rest := by
  rw [List.dropWhile_append_of_pos, List.dropWhile_cons_of_neg (by simp)]
  intro c hc
  rw [decide_eq_true_eq]
  rintro rfl
  exact hcommand hc

theorem dropWhile_ne_bell_of_not_mem {cs : List Char} (hcs : bell ∉ cs) :
    cs.dropWhile (· ≠ bell) = [] := by
  rw [List.dropWhile_eq_nil_iff]
  intro c hc
  rw [decide_eq_true_eq]
  rintro rfl
  exact hcs hc

/-- A sequence is found exactly where a complete one stands. -/
theorem afterSequence?_eq_some_iff {cs rest : List Char} :
    afterSequence? cs = some rest ↔ ∃ seq, Sequence seq ∧ cs = seq ++ rest := by
  constructor
  · intro hafter
    unfold afterSequence? at hafter
    split at hafter
    next tail =>
        split at hafter
        next c after hdrop =>
            split at hafter
            next hletter =>
                rw [Option.some.injEq] at hafter
                subst hafter
                refine ⟨_, .control (tail.takeWhile isParameter)
                  (fun _ => List.mem_takeWhile_imp) hletter, ?_⟩
                rw [List.cons_append, List.append_assoc, List.singleton_append, ← hdrop,
                  List.takeWhile_append_dropWhile]
            next => simp at hafter
        next => simp at hafter
    next tail =>
        by_cases hbell : bell ∈ tail
        · obtain ⟨command, after, rfl, hcommand⟩ := List.eq_append_cons_of_mem hbell
          rw [dropWhile_ne_bell hcommand] at hafter
          simp only [Option.some.injEq] at hafter
          subst hafter
          exact ⟨_, .system hcommand, by simp⟩
        · rw [dropWhile_ne_bell_of_not_mem hbell] at hafter
          simp at hafter
    next => simp at hafter
  · rintro ⟨seq, hseq, rfl⟩
    cases hseq with
    | control parameters hparameters hletter =>
        rw [List.cons_append, List.append_assoc, List.singleton_append, afterSequence?,
          List.dropWhile_append_of_pos hparameters,
          List.dropWhile_cons_of_neg (not_isParameter_of_isAlpha hletter)]
        simp [hletter]
    | system hcommand =>
        rw [List.cons_append, List.append_assoc, List.singleton_append, afterSequence?,
          dropWhile_ne_bell hcommand]

theorem afterSequence?_eq_none_iff {cs : List Char} :
    afterSequence? cs = none ↔ ∀ seq rest, Sequence seq → cs ≠ seq ++ rest := by
  rw [Option.eq_none_iff_forall_ne_some]
  constructor
  · intro hnone seq rest hseq heq
    exact hnone rest (afterSequence?_eq_some_iff.mpr ⟨seq, hseq, heq⟩)
  · intro hnone rest hsome
    obtain ⟨seq, hseq, heq⟩ := afterSequence?_eq_some_iff.mp hsome
    exact hnone seq rest hseq heq

/-! ## Equations of stripping -/

@[simp]
theorem strip_nil : strip [] = [] := by
  rw [strip]

theorem strip_cons_of_ne {c : Char} (hc : c ≠ esc) (cs : List Char) :
    strip (c :: cs) = c :: strip cs := by
  rw [strip, if_neg hc]

theorem strip_sequence {seq : List Char} (hseq : Sequence seq) (rest : List Char) :
    strip (esc :: (seq ++ rest)) = strip rest := by
  have hafter : afterSequence? (seq ++ rest) = some rest :=
    afterSequence?_eq_some_iff.mpr ⟨seq, hseq, rfl⟩
  rw [strip, if_pos rfl]
  split
  next found hfound =>
      rw [hafter, Option.some.injEq] at hfound
      exact congrArg strip hfound.symm
  next hnone => simp [hafter] at hnone

theorem strip_esc {cs : List Char} (hcs : afterSequence? cs = none) :
    strip (esc :: cs) = esc :: strip cs := by
  rw [strip, if_pos rfl]
  split
  next found hfound => simp [hcs] at hfound
  next => rfl

/-- Text before the first escape character is kept. -/
theorem strip_append_of_not_mem {cs : List Char} (hcs : esc ∉ cs) (rest : List Char) :
    strip (cs ++ rest) = cs ++ strip rest := by
  induction cs with
  | nil => rfl
  | cons c cs ih =>
      rw [List.mem_cons, not_or] at hcs
      rw [List.cons_append, strip_cons_of_ne (Ne.symm hcs.1), ih hcs.2, List.cons_append]

theorem strip_of_not_mem {cs : List Char} (hcs : esc ∉ cs) : strip cs = cs := by
  simpa using strip_append_of_not_mem hcs []

/-- Stripping only leaves things out. -/
theorem strip_sublist (cs : List Char) : (strip cs).Sublist cs := by
  fun_induction strip cs with
  | case1 => exact List.Sublist.refl _
  | case2 cs rest hseq _ ih =>
      obtain ⟨seq, -, rfl⟩ := afterSequence?_eq_some_iff.mp hseq
      exact (ih.trans (List.sublist_append_right seq rest)).cons _
  | case3 cs _ ih => exact ih.cons_cons _
  | case4 c cs _ ih => exact ih.cons_cons _

/-! ## Open system commands -/

/-- A text starts a system command and does not end it. -/
def LeavesOpen (cs : List Char) : Prop :=
  ∃ command, esc :: ']' :: command <:+ cs ∧ bell ∉ command

theorem not_leavesOpen_nil : ¬ LeavesOpen [] := by
  rintro ⟨command, hsuffix, -⟩
  simp at hsuffix

theorem leavesOpen_cons_iff {c : Char} {cs : List Char} :
    LeavesOpen (c :: cs) ↔
      (c = esc ∧ ∃ command, cs = ']' :: command ∧ bell ∉ command) ∨ LeavesOpen cs := by
  constructor
  · rintro ⟨command, hsuffix, hcommand⟩
    rcases List.suffix_cons_iff.mp hsuffix with heq | hsuffix
    · rw [List.cons.injEq] at heq
      exact Or.inl ⟨heq.1.symm, command, heq.2.symm, hcommand⟩
    · exact Or.inr ⟨command, hsuffix, hcommand⟩
  · rintro (⟨rfl, command, rfl, hcommand⟩ | ⟨command, hsuffix, hcommand⟩)
    · exact ⟨command, List.suffix_rfl, hcommand⟩
    · exact ⟨command, hsuffix.trans (List.suffix_cons c cs), hcommand⟩

theorem LeavesOpen.cons {cs : List Char} (hopen : LeavesOpen cs) (c : Char) :
    LeavesOpen (c :: cs) :=
  leavesOpen_cons_iff.mpr (Or.inr hopen)

theorem leavesOpen_append_of_not_mem {cs : List Char} (hcs : esc ∉ cs) {rest : List Char} :
    LeavesOpen (cs ++ rest) ↔ LeavesOpen rest := by
  induction cs with
  | nil => rfl
  | cons c cs ih =>
      rw [List.mem_cons, not_or] at hcs
      rw [List.cons_append, leavesOpen_cons_iff, ih hcs.2]
      simp [Ne.symm hcs.1]

/-- A bell ends every command before it. -/
theorem leavesOpen_append_bell (cs rest : List Char) :
    LeavesOpen (cs ++ bell :: rest) ↔ LeavesOpen rest := by
  induction cs with
  | nil =>
      rw [List.nil_append, leavesOpen_cons_iff]
      simp [bell, esc]
  | cons c cs ih =>
      rw [List.cons_append, leavesOpen_cons_iff, ih]
      constructor
      · rintro (⟨-, command, heq, hcommand⟩ | hrest)
        · have hmem : bell ∈ ']' :: command := heq ▸ by simp
          rcases List.mem_cons.mp hmem with hbell | hbell
          · exact absurd hbell (by decide)
          · exact absurd hbell hcommand
        · exact hrest
      · exact Or.inr

/-- A complete sequence leaves nothing open, whatever a command in it holds. -/
theorem leavesOpen_sequence {seq : List Char} (hseq : Sequence seq) (rest : List Char) :
    LeavesOpen (esc :: (seq ++ rest)) ↔ LeavesOpen rest := by
  cases hseq with
  | control parameters hparameters hletter =>
      have hplain := not_mem_control hparameters hletter esc (by decide)
      rw [leavesOpen_cons_iff, leavesOpen_append_of_not_mem hplain]
      simp
  | @system command hcommand =>
      have hcut : esc :: (']' :: (command ++ [bell]) ++ rest) =
          (esc :: ']' :: command) ++ bell :: rest := by simp
      rw [hcut, leavesOpen_append_bell]

/-- A character that no sequence starts with and no control sequence holds. -/
def Divides (c : Char) : Prop := c ≠ '[' ∧ c ≠ ']' ∧ ¬ isParameter c ∧ ¬ c.isAlpha

instance (c : Char) : Decidable (Divides c) :=
  inferInstanceAs (Decidable (_ ∧ _ ∧ _ ∧ _))

theorem open_of_across {c : Char} (hc : Divides c) {cs more command : List Char}
    (hacross : cs ++ c :: more = ']' :: (command ++ [bell])) (hcommand : bell ∉ command) :
    ∃ start, cs = ']' :: start ∧ bell ∉ start ∧ bell ∈ c :: more := by
  cases cs with
  | nil => exact absurd (List.cons.inj hacross).1 hc.2.1
  | cons first start =>
      rw [List.cons_append, List.cons.injEq] at hacross
      obtain ⟨rfl, hacross⟩ := hacross
      obtain ⟨middle, last, hmore⟩ :=
        (List.eq_nil_or_concat (c :: more)).resolve_left (List.cons_ne_nil c more)
      rw [List.concat_eq_append] at hmore
      rw [hmore, ← List.append_assoc] at hacross
      obtain ⟨rfl, hlast⟩ := List.append_inj' hacross rfl
      rw [List.singleton_inj] at hlast
      refine ⟨start, rfl, fun hstart => hcommand (List.mem_append_left _ hstart), ?_⟩
      rw [hmore, hlast]
      simp

/-- A sequence that reaches across a dividing character is a system command that is
open before it and ended by a bell from there on. -/
theorem afterSequence?_append_cons {c : Char} (hc : Divides c) {cs ds : List Char}
    (hnone : afterSequence? cs = none) (hclosed : LeavesOpen (esc :: cs) → bell ∉ c :: ds) :
    afterSequence? (cs ++ c :: ds) = none := by
  rw [afterSequence?_eq_none_iff] at hnone ⊢
  intro seq rest hseq heq
  rcases List.append_eq_append_iff.mp heq with ⟨more, rfl, hmore⟩ | ⟨more, hcs, -⟩
  · cases more with
    | nil =>
        rw [List.append_nil] at hseq
        exact hnone cs [] hseq (List.append_nil cs).symm
    | cons d more =>
        rw [List.cons_append, List.cons.injEq] at hmore
        obtain ⟨rfl, rfl⟩ := hmore
        generalize hacross : cs ++ c :: more = seq at hseq
        cases hseq with
        | @control parameters letter hparameters hletter =>
            have hmem : c ∈ '[' :: (parameters ++ [letter]) := by
              rw [← hacross]
              simp
            exact not_mem_control hparameters hletter c ⟨hc.1, hc.2.2⟩ hmem
        | @system command hcommand =>
            obtain ⟨start, rfl, hstart, hmore⟩ := open_of_across hc hacross hcommand
            have hopen : LeavesOpen (esc :: ']' :: start) := ⟨start, List.suffix_rfl, hstart⟩
            exact hclosed hopen (List.mem_append_left rest hmore)
  · exact hnone seq more hseq hcs

/-- Stripping stops at a dividing character, unless a system command is open before it
and a bell follows. -/
theorem strip_append_cons {c : Char} (hc : Divides c) {cs ds : List Char}
    (hclosed : LeavesOpen cs → bell ∉ c :: ds) :
    strip (cs ++ c :: ds) = strip cs ++ strip (c :: ds) := by
  fun_induction strip cs with
  | case1 => rfl
  | case2 cs rest hafter _ ih =>
      obtain ⟨seq, hseq, rfl⟩ := afterSequence?_eq_some_iff.mp hafter
      rw [leavesOpen_sequence hseq] at hclosed
      rw [List.cons_append, List.append_assoc, strip_sequence hseq, ih hclosed]
  | case3 cs hnone ih =>
      have hrest : LeavesOpen cs → bell ∉ c :: ds := fun hopen => hclosed (hopen.cons _)
      rw [List.cons_append, strip_esc (afterSequence?_append_cons hc hnone hclosed), ih hrest,
        List.cons_append]
  | case4 d cs hd ih =>
      have hrest : LeavesOpen cs → bell ∉ c :: ds := fun hopen => hclosed (hopen.cons _)
      rw [List.cons_append, strip_cons_of_ne hd, ih hrest, List.cons_append]

/-- Stripping stops at a line feed, unless a system command is open before it and a
bell follows. -/
theorem strip_append_feed {cs ds : List Char} (hclosed : LeavesOpen cs → bell ∉ ds) :
    strip (cs ++ '\n' :: ds) = strip cs ++ '\n' :: strip ds := by
  have hfeed : LeavesOpen cs → bell ∉ '\n' :: ds := fun hopen =>
    List.not_mem_cons_of_ne_of_not_mem (by decide) (hclosed hopen)
  rw [strip_append_cons (by decide) hfeed, strip_cons_of_ne (by decide)]

theorem LeavesOpen.esc_mem {cs : List Char} (hopen : LeavesOpen cs) : esc ∈ cs := by
  obtain ⟨command, hsuffix, -⟩ := hopen
  exact hsuffix.subset List.mem_cons_self

theorem LeavesOpen.append {cs ds : List Char} (hopen : LeavesOpen cs) (hds : bell ∉ ds) :
    LeavesOpen (cs ++ ds) := by
  obtain ⟨command, ⟨before, rfl⟩, hcommand⟩ := hopen
  exact ⟨command ++ ds, ⟨before, by simp⟩, by simp [hcommand, hds]⟩

/-- No control sequence reaches beyond a text with an open command, since it would
have to hold the escape character of the command. -/
theorem afterSequence?_append_of_leavesOpen {cs : List Char} (hopen : LeavesOpen cs)
    (hnone : afterSequence? cs = none) (hhead : cs.head? ≠ some ']') (more : List Char) :
    afterSequence? (cs ++ more) = none := by
  rw [afterSequence?_eq_none_iff] at hnone ⊢
  intro seq rest hseq heq
  rcases List.append_eq_append_iff.mp heq with ⟨tail, rfl, -⟩ | ⟨tail, hcs, -⟩
  · have hesc : esc ∈ cs ++ tail := List.mem_append_left _ hopen.esc_mem
    generalize hwhole : cs ++ tail = seq at hseq hesc
    cases hseq with
    | control parameters hparameters hletter =>
        exact not_mem_control hparameters hletter esc (by decide) hesc
    | system hcommand =>
        obtain ⟨c, rest, rfl⟩ := List.exists_cons_of_ne_nil (List.ne_nil_of_mem hopen.esc_mem)
        rw [List.cons_append, List.cons.injEq] at hwhole
        exact hhead (by rw [List.head?_cons, hwhole.1])
  · exact hnone seq tail hseq hcs

theorem afterSequence?_system_eq_none_iff {command : List Char} :
    afterSequence? (']' :: command) = none ↔ bell ∉ command := by
  rw [afterSequence?_eq_none_iff]
  constructor
  · intro hnone hbell
    obtain ⟨body, rest, rfl, hbody⟩ := List.eq_append_cons_of_mem hbell
    exact hnone _ rest (.system hbody) (by simp)
  · intro hbell seq rest hseq heq
    cases hseq with
    | control => simp at heq
    | @system body hbody =>
        have htail : command = body ++ [bell] ++ rest := by simpa using heq
        exact hbell (htail ▸ by simp)

/-- An open command takes in everything up to the next bell, and what stands before
it does not depend on what that is. -/
theorem LeavesOpen.exists_front {cs : List Char} (hopen : LeavesOpen cs) :
    ∃ front, front.Sublist cs ∧ ∀ body rest, bell ∉ body →
      strip (cs ++ (body ++ bell :: rest)) = front ++ strip rest := by
  fun_induction strip cs with
  | case1 => exact absurd hopen not_leavesOpen_nil
  | case2 cs after hafter _ ih =>
      obtain ⟨seq, hseq, rfl⟩ := afterSequence?_eq_some_iff.mp hafter
      rw [leavesOpen_sequence hseq] at hopen
      obtain ⟨front, hfront, hstrip⟩ := ih hopen
      refine ⟨front, (hfront.trans (List.sublist_append_right seq after)).cons _, ?_⟩
      intro body rest hbody
      rw [List.cons_append, List.append_assoc, strip_sequence hseq, hstrip body rest hbody]
  | case3 cs hnone ih =>
      by_cases hhead : cs.head? = some ']'
      · obtain ⟨command, rfl⟩ := List.head?_eq_some_iff.mp hhead
        refine ⟨[], List.nil_sublist _, fun body rest hbody => ?_⟩
        have hcommand : bell ∉ command ++ body := by
          simp [hbody, afterSequence?_system_eq_none_iff.mp hnone]
        simpa using strip_sequence (.system hcommand) rest
      · have htail : LeavesOpen cs := by
          rcases leavesOpen_cons_iff.mp hopen with ⟨-, command, rfl, -⟩ | htail
          · simp at hhead
          · exact htail
        obtain ⟨front, hfront, hstrip⟩ := ih htail
        refine ⟨esc :: front, hfront.cons_cons _, fun body rest hbody => ?_⟩
        have hnone' := afterSequence?_append_of_leavesOpen htail hnone hhead
        rw [List.cons_append, strip_esc (hnone' _), hstrip body rest hbody, List.cons_append]
  | case4 c cs hc ih =>
      have htail : LeavesOpen cs := by
        rcases leavesOpen_cons_iff.mp hopen with ⟨rfl, -⟩ | htail
        · exact absurd rfl hc
        · exact htail
      obtain ⟨front, hfront, hstrip⟩ := ih htail
      refine ⟨c :: front, hfront.cons_cons _, fun body rest hbody => ?_⟩
      rw [List.cons_append, strip_cons_of_ne hc, hstrip body rest hbody, List.cons_append]

end WindowScript.Terminal
