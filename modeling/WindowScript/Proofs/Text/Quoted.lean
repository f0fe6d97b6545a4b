/-
# Reading quoted text back

A quoted text is read one character at a time, and each character is read from
its own escape, whatever follows. So the units of a quoted text are the units of
its characters, and units of characters stand for these characters again.

Readers differ in the characters that they refuse to find unescaped. A reader
gets back what was quoted as long as the quoting rule escapes those.
-/

import WindowScript.Text.Quoted

namespace WindowScript.Text

/-! ## Units -/

/-- No character has a value in the range of half pairs. -/
theorem isHighUnit_or_isLowUnit_toNat (c : Char) :
    (isHighUnit c.toNat || isLowUnit c.toNat) = false := by
  have hvalid : c.toNat.isValidChar := c.valid
  unfold Nat.isValidChar at hvalid
  simp only [isHighUnit, isLowUnit, Bool.or_eq_false_iff, Bool.and_eq_false_iff,
    decide_eq_false_iff_not]
  omega

theorem pairValue_div_mod (n : Nat) :
    pairValue (0xD800 + n / 0x400) (0xDC00 + n % 0x400) = 0x10000 + n := by
  unfold pairValue
  omega

/-- A unit that is no half pair stands alone, whatever follows. -/
theorem ofUnits_cons_of_not_high {u : Nat} (hu : isHighUnit u = false) (rest : List Nat) :
    ofUnits (u :: rest) = ofUnit u :: ofUnits rest := by
  cases rest with
  | nil => rfl
  | cons v rest => simp [ofUnits, hu]

/-- The units of a character stand for it, whatever follows. -/
theorem ofUnits_units_append (c : Char) (rest : List Nat) :
    ofUnits (units c ++ rest) = c :: ofUnits rest := by
  simp only [units]
  split
  next hsmall =>
      have hunit := isHighUnit_or_isLowUnit_toNat c
      rw [List.cons_append, List.nil_append,
        ofUnits_cons_of_not_high (Bool.or_eq_false_iff.mp hunit).1, ofUnit, hunit]
      simp
  next hlarge =>
      have hvalid : c.toNat.isValidChar := c.valid
      unfold Nat.isValidChar at hvalid
      have hhigh : isHighUnit (0xD800 + (c.toNat - 0x10000) / 0x400) = true := by
        simp only [isHighUnit, Bool.and_eq_true, decide_eq_true_eq]
        omega
      have hlow : isLowUnit (0xDC00 + (c.toNat - 0x10000) % 0x400) = true := by
        simp only [isLowUnit, Bool.and_eq_true, decide_eq_true_eq]
        omega
      have hvalue : 0x10000 + (c.toNat - 0x10000) = c.toNat := by omega
      simp only [List.cons_append, List.nil_append, ofUnits, hhigh, hlow, Bool.and_self,
        if_true, pairValue_div_mod, hvalue, Char.ofNat_toNat]

theorem ofUnits_flatMap_units (cs : List Char) : ofUnits (cs.flatMap units) = cs := by
  induction cs with
  | nil => rfl
  | cons c cs ih => rw [List.flatMap_cons, ofUnits_units_append, ih]

/-! ## Escapes -/

theorem hexDigit?_digitChar {d : Nat} (hd : d < 16) :
    hexDigit? (Nat.digitChar d) = some d := by
  have hall : ∀ d : Fin 16, hexDigit? (Nat.digitChar d) = some d.val := by decide
  exact hall ⟨d, hd⟩

/-- Four digits are read as the unit that they were written for. -/
theorem hexDigits?_map_digitChar {n : Nat} (hn : n < 0x10000) :
    hexDigits? 4 0 ([n / 4096 % 16, n / 256 % 16, n / 16 % 16, n % 16].map Nat.digitChar) =
      some (n, []) := by
  have hdigit (m : Nat) : hexDigit? (Nat.digitChar (m % 16)) = some (m % 16) :=
    hexDigit?_digitChar (Nat.mod_lt m (by decide))
  simp only [List.map_cons, List.map_nil, hexDigits?, hdigit]
  simp only [Option.some.injEq, Prod.mk.injEq, and_true]
  omega

/-- What holds of a backslash, of the letter `u` and of every digit holds of all
characters of an escape with digits. -/
theorem forall_mem_hexEscape {P : Char → Prop} (hbackslash : P '\\') (hletter : P 'u')
    (hdigit : ∀ d : Fin 16, P (Nat.digitChar d)) (n : Nat) : ∀ x ∈ hexEscape n, P x := by
  have hmod (m : Nat) : P (Nat.digitChar (m % 16)) := hdigit ⟨m % 16, Nat.mod_lt m (by decide)⟩
  simp only [hexEscape, List.map_cons, List.map_nil, List.forall_mem_cons]
  exact ⟨hbackslash, hletter, hmod _, hmod _, hmod _, hmod _, by simp⟩

/-- A reader takes a way of writing a character for this character, whatever
follows. -/
def ReadsAs (forbidden : Char → Bool) (written : List Char) (c : Char) : Prop :=
  ∀ rest, unquoteUnits forbidden (written ++ rest) =
    (unquoteUnits forbidden rest).map fun found => (units c ++ found.1, found.2)

theorem units_of_small {c : Char} (hc : c.toNat < 0x10000) : units c = [c.toNat] :=
  if_pos hc

theorem readsAs_hexEscape (forbidden : Char → Bool) {c : Char} (hc : c.toNat < 0x10000) :
    ReadsAs forbidden (hexEscape c.toNat) c := by
  intro rest
  have hdigits := hexDigits?_map_digitChar hc
  simp only [List.map_cons, List.map_nil] at hdigits
  simp only [hexEscape, List.map_cons, List.map_nil, List.cons_append, List.nil_append,
    units_of_small hc]
  rw [unquoteUnits, if_pos rfl, hdigits]
  cases unquoteUnits forbidden rest <;> rfl

theorem toNat_of_letterEscape? {letter c : Char} (hletter : letterEscape? letter = some c) :
    c.toNat < 0x10000 := by
  unfold letterEscape? at hletter
  split at hletter <;> simp only [Option.some.injEq, reduceCtorEq] at hletter
  all_goals
    rw [← hletter]
    decide

theorem readsAs_letter (forbidden : Char → Bool) {letter c : Char} (hne : letter ≠ 'u')
    (hletter : letterEscape? letter = some c) : ReadsAs forbidden ['\\', letter] c := by
  intro rest
  simp only [List.cons_append, List.nil_append, units_of_small (toNat_of_letterEscape? hletter)]
  rw [unquoteUnits.eq_def]
  simp only [hne, if_false, hletter]
  cases unquoteUnits forbidden rest <;> rfl

theorem readsAs_self {forbidden : Char → Bool} {c : Char} (hquote : c ≠ '"')
    (hbackslash : c ≠ '\\') (hc : forbidden c = false) : ReadsAs forbidden [c] c := by
  intro rest
  rw [List.cons_append, List.nil_append, unquoteUnits]
  · simp only [hc, Bool.false_eq_true, if_false]
    cases unquoteUnits forbidden rest <;> rfl
  all_goals simp_all

/-- What the common escape of a character can be: a letter, digits for a control
character, or the character itself. -/
theorem escape_cases (c : Char) :
    (∃ letter, letter ≠ 'u' ∧ letterEscape? letter = some c ∧ escape c = ['\\', letter]) ∨
    (c.toNat < 0x20 ∧ escape c = hexEscape c.toNat) ∨
    (0x20 ≤ c.toNat ∧ c ≠ '"' ∧ c ≠ '\\' ∧ escape c = [c]) := by
  unfold escape
  split
  case h_8 hquote hbackslash _ _ _ _ _ =>
      by_cases hcontrol : c.toNat < 0x20
      · exact Or.inr (Or.inl ⟨hcontrol, if_pos hcontrol⟩)
      · exact Or.inr (Or.inr ⟨Nat.le_of_not_lt hcontrol, hquote, hbackslash, if_neg hcontrol⟩)
  all_goals exact Or.inl ⟨_, by decide, rfl, rfl⟩

/-- The common escapes are read back by every reader that forbids control
characters at most. -/
theorem readsAs_escape {forbidden : Char → Bool} {c : Char}
    (hc : 0x20 ≤ c.toNat → forbidden c = false) : ReadsAs forbidden (escape c) c := by
  rcases escape_cases c with ⟨letter, hne, hletter, hescape⟩ | ⟨hcontrol, hescape⟩ |
    ⟨hprinted, hquote, hbackslash, hescape⟩ <;> rw [hescape]
  · exact readsAs_letter forbidden hne hletter
  · exact readsAs_hexEscape forbidden (Nat.lt_trans hcontrol (by decide))
  · exact readsAs_self hquote hbackslash (hc hprinted)

/-! ## Whole texts -/

/-- A text is read back from its escaped characters and a closing quote, and what
follows the quote is left. -/
theorem unquote_flatMap {forbidden : Char → Bool} {rule : Char → List Char}
    (hrule : ∀ c, ReadsAs forbidden (rule c) c) (cs rest : List Char) :
    unquote forbidden (cs.flatMap rule ++ '"' :: rest) = some (cs, rest) := by
  have hunits : unquoteUnits forbidden (cs.flatMap rule ++ '"' :: rest) =
      some (cs.flatMap units, rest) := by
    induction cs with
    | nil => simp [unquoteUnits]
    | cons c cs ih =>
        rw [List.flatMap_cons, List.append_assoc, hrule c, ih]
        rfl
  rw [unquote, hunits]
  simp only [ofUnits_flatMap_units]

end WindowScript.Text
