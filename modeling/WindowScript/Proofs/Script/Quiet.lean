/-
# Code in which a text is not found

Scripts are searched for a few texts: the quote that starts a literal, the call of
`print`, and the call that lists all windows. Code is quiet about a text if the text
neither stands in it nor starts in it, whatever follows. Quiet code stays quiet when it
is put together, so that only the fixed parts of a script have to be looked at. They are
looked at once, for all the texts together.
-/

import Mathlib.Data.List.Infix
import WindowScript.Proofs.Script.Scanner

namespace WindowScript.Script

/-- A text that is given by its characters is searched without decoding it. -/
theorem toList_ofList_of (p : List Char → Prop) {cs : List Char} (hcs : p cs) :
    p (String.ofList cs).toList := by
  rwa [String.toList_ofList]

/-! ## Lists that part -/

section

variable {α β : Type}

/-- Neither of two lists is the beginning of the other. -/
def Diverge (first second : List α) : Prop := ¬ first <+: second ∧ ¬ second <+: first

instance [DecidableEq α] (first second : List α) : Decidable (Diverge first second) :=
  inferInstanceAs (Decidable (_ ∧ _))

variable {first second : List α}

theorem Diverge.symm (hdiverge : Diverge first second) : Diverge second first :=
  And.symm hdiverge

/-- Lists that part are not continued to the same list. -/
theorem Diverge.append_ne (hdiverge : Diverge first second) (rest rest' : List α) :
    first ++ rest ≠ second ++ rest' := by
  intro heq
  rcases List.prefix_or_prefix_of_prefix (List.prefix_append first rest)
    (heq ▸ List.prefix_append second rest') with hprefix | hprefix
  · exact hdiverge.1 hprefix
  · exact hdiverge.2 hprefix

theorem diverge_of_append_ne (hne : ∀ rest rest', first ++ rest ≠ second ++ rest') :
    Diverge first second := by
  constructor
  · rintro ⟨rest, hrest⟩
    exact hne rest [] (by simpa using hrest)
  · rintro ⟨rest, hrest⟩
    exact hne [] rest (by simpa using hrest.symm)

theorem Diverge.append (hdiverge : Diverge first second) (rest rest' : List α) :
    Diverge (first ++ rest) (second ++ rest') := by
  apply diverge_of_append_ne
  intro more more'
  rw [List.append_assoc, List.append_assoc]
  exact hdiverge.append_ne _ _

theorem diverge_append_iff (front : List α) :
    Diverge (front ++ first) (front ++ second) ↔ Diverge first second := by
  simp only [Diverge, List.prefix_append_right_inj]

theorem diverge_map_iff {f : α → β} (hf : Function.Injective f) :
    Diverge (first.map f) (second.map f) ↔ Diverge first second := by
  simp only [Diverge, List.prefix_map_iff_of_injective hf]

end

/-! ## Quiet code -/

/-- Code in which a text neither stands nor starts, whatever follows. -/
def quiet (text : List Char) : List Char → Bool
  | [] => true
  | c :: code => decide (Diverge text (c :: code)) && quiet text code

section

variable {old code : List Char}

theorem quiet_append {first second : List Char} (hfirst : quiet old first)
    (hsecond : quiet old second) : quiet old (first ++ second) := by
  induction first with
  | nil => exact hsecond
  | cons c first ih =>
      simp only [quiet, Bool.and_eq_true, decide_eq_true_eq] at hfirst
      simp only [List.cons_append, quiet, Bool.and_eq_true, decide_eq_true_eq]
      refine ⟨?_, ih hfirst.2⟩
      simpa using hfirst.1.append [] second

theorem not_prefix_of_diverge (hdiverge : Diverge old code) (rest : List Lexeme) :
    ¬ old.map .code <+: code.map .code ++ rest := by
  have hcode : Function.Injective Lexeme.code := fun _ _ => Lexeme.code.inj
  rintro ⟨more, hmore⟩
  exact ((diverge_map_iff hcode).mpr hdiverge).append_ne more rest hmore

theorem quiet_toList_append {first second : String} (hfirst : quiet old first.toList)
    (hsecond : quiet old second.toList) : quiet old (first ++ second).toList := by
  rw [String.toList_append]
  exact quiet_append hfirst hsecond

/-- Code is quiet about a text if it does not hold the first character of it. -/
theorem quiet_of_not_mem {c : Char} (hcode : c ∉ code) : quiet (c :: old) code := by
  induction code with
  | nil => rfl
  | cons d code ih =>
      rw [List.mem_cons, not_or] at hcode
      have hdiverge : Diverge (c :: old) (d :: code) := by
        constructor
        · exact fun hprefix => hcode.1 (List.cons_prefix_cons.mp hprefix).1
        · exact fun hprefix => hcode.1 (List.cons_prefix_cons.mp hprefix).1.symm
      simp [quiet, hdiverge, ih hcode.2]

theorem quiet_singleton_iff {c : Char} : quiet [c] code ↔ c ∉ code := by
  refine ⟨fun hcode => ?_, quiet_of_not_mem⟩
  induction code with
  | nil => exact List.not_mem_nil
  | cons d code ih =>
      simp only [quiet, Bool.and_eq_true, decide_eq_true_eq] at hcode
      rw [List.mem_cons, not_or]
      refine ⟨?_, ih hcode.2⟩
      rintro rfl
      exact hcode.1.1 (List.prefix_append [c] code)

end

/-! ## What scripts are searched for -/

/-- The code that starts a call of `print`. -/
def printCall : List Char := ['p', 'r', 'i', 'n', 't', '(']

/-- The call that lists all windows. -/
def windowCall : List Char :=
  ['w', 'o', 'r', 'k', 's', 'p', 'a', 'c', 'e', '.', 'w', 'i', 'n', 'd', 'o', 'w', 'L', 'i', 's',
    't', '(', ')']

/-- The texts that scripts are searched for. -/
def sought : List (List Char) := [['"'], printCall, windowCall]

section

variable {text : List Char}

/-- Fixed code is looked at once, for all that is searched for. -/
theorem quiet_ofList (htext : text ∈ sought) {cs : List Char}
    (hcs : sought.all fun text => quiet text cs) : quiet text (String.ofList cs).toList := by
  rw [String.toList_ofList]
  exact List.all_eq_true.mp hcs text htext

theorem quiet_decimalInt (htext : text ∈ sought) (n : Int) :
    quiet text (Number.decimalInt n).toList := by
  simp only [sought, List.mem_cons, List.not_mem_nil, or_false] at htext
  rcases htext with rfl | rfl | rfl
  all_goals exact quiet_of_not_mem (Number.not_mem_decimalInt (by decide) (by decide) n)

theorem quiet_fragment (htext : text ∈ sought) (action : Action) :
    quiet text action.fragment.toList := by
  cases action
  all_goals
    simp only [Action.fragment, Action.entry]
    repeat' with_reducible apply quiet_toList_append
    all_goals with_reducible exact quiet_ofList htext (by decide +kernel)

theorem quiet_filter (htext : text ∈ sought) (matchAny : Bool) :
    quiet text (if matchAny then anyFilter else allFilter).toList := by
  unfold anyFilter allFilter
  split
  all_goals
    repeat' with_reducible apply quiet_toList_append
    all_goals with_reducible exact quiet_ofList htext (by decide +kernel)

theorem quiet_windowList (htext : text = ['"'] ∨ text = printCall) (target : Target) :
    quiet text (windowList target).toList := by
  unfold windowList
  split
  all_goals
    rcases htext with rfl | rfl
    all_goals with_reducible exact toList_ofList_of (quiet _ ·) (by decide +kernel)

end

end WindowScript.Script
