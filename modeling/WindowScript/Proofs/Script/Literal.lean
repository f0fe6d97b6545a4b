/-
# Literals are exact

A script engine takes a string literal from its opening quote on. Between the
quotes a character stands for itself, unless it is a quote, a backslash or a line
end; a backslash and one of seven letters stand for one character, and a backslash,
the letter `u` and four hexadecimal digits for one sixteen-bit unit. This grammar is
stated here on its own. The literal of a text is read by it in exactly one way, as
that text, and the reading stops right behind the literal, whatever follows.

A literal has two layers: a text is quoted as in JSON, and in what was written each
line separator is replaced by its escape. Replacing characters never touches an
escape, so a value that spells such an escape out comes back as it was.
-/

import WindowScript.Json.Printer
import WindowScript.Proofs.Script.Scanner

namespace WindowScript.Script

/-! ## The grammar of literals -/

/-- The letters that may follow a backslash, with the characters they stand for. -/
def escapeLetters : List (Char × Char) :=
  [('"', '"'), ('\\', '\\'), ('b', '\x08'), ('t', '\t'), ('n', '\n'), ('f', '\x0c'), ('r', '\r')]

/-- A way of writing units between the quotes of a literal. -/
inductive Element : List Char → List Nat → Prop
  | plain {c : Char} :
      c ≠ '"' → c ≠ '\\' → isLineEnd c = false → Element [c] (Text.units c)
  | letter {letter c : Char} :
      (letter, c) ∈ escapeLetters → Element ['\\', letter] [c.toNat]
  | digits {h₁ h₂ h₃ h₄ : Char} {unit : Nat} :
      Text.hexDigits? 4 0 [h₁, h₂, h₃, h₄] = some (unit, []) →
      Element ['\\', 'u', h₁, h₂, h₃, h₄] [unit]

/-- What may stand between the quotes of a literal, with the units it denotes. -/
inductive Body : List Char → List Nat → Prop
  | nil : Body [] []
  | cons {written rest : List Char} {found units : List Nat} :
      Element written found → Body rest units → Body (written ++ rest) (found ++ units)

/-- A text starts with a literal that denotes `value`, and `rest` follows the
literal. -/
def ReadsLiteral (text : List Char) (value : String) (rest : List Char) : Prop :=
  ∃ body, Body body (value.toList.flatMap Text.units) ∧ text = '"' :: body ++ '"' :: rest

/-- The letters are letters of quoted text in general. -/
theorem letterEscape?_of_mem {letter c : Char} (hmem : (letter, c) ∈ escapeLetters) :
    letter ≠ 'u' ∧ Text.letterEscape? letter = some c := by
  simp only [escapeLetters, List.mem_cons, Prod.mk.injEq, List.not_mem_nil, or_false] at hmem
  rcases hmem with ⟨rfl, rfl⟩ | ⟨rfl, rfl⟩ | ⟨rfl, rfl⟩ | ⟨rfl, rfl⟩ | ⟨rfl, rfl⟩ | ⟨rfl, rfl⟩ |
    ⟨rfl, rfl⟩ <;> decide

/-- An element is read as its units, whatever follows. -/
theorem Element.unquoteUnits {written : List Char} {found : List Nat}
    (helement : Element written found) (rest : List Char) :
    Text.unquoteUnits isLineEnd (written ++ rest) =
      (Text.unquoteUnits isLineEnd rest).map fun tail => (found ++ tail.1, tail.2) := by
  cases helement with
  | plain hquote hbackslash hend => exact Text.readsAs_self hquote hbackslash hend rest
  | letter hmem =>
      obtain ⟨hne, hletter⟩ := letterEscape?_of_mem hmem
      have hread := Text.readsAs_letter isLineEnd hne hletter rest
      rwa [Text.units_of_small (Text.toNat_of_letterEscape? hletter)] at hread
  | digits hdigits =>
      simp only [List.cons_append, List.nil_append]
      rw [Text.unquoteUnits, if_pos rfl, hdigits]
      cases Text.unquoteUnits isLineEnd rest <;> rfl

/-- The body of a literal is read up to the first quote that no element takes. -/
theorem Body.unquoteUnits {body : List Char} {units : List Nat} (hbody : Body body units)
    (rest : List Char) :
    Text.unquoteUnits isLineEnd (body ++ '"' :: rest) = some (units, rest) := by
  induction hbody with
  | nil => simp [Text.unquoteUnits]
  | cons helement _ ih =>
      rw [List.append_assoc, helement.unquoteUnits, ih]
      rfl

/-- A text starts with at most one literal. -/
theorem ReadsLiteral.unique {text rest left : List Char} {value found : String}
    (hread : ReadsLiteral text value rest) (hother : ReadsLiteral text found left) :
    found = value ∧ left = rest := by
  obtain ⟨body, hbody, htext⟩ := hread
  obtain ⟨other, hotherBody, hotherText⟩ := hother
  have hsame : body ++ '"' :: rest = other ++ '"' :: left :=
    List.cons.inj (htext.symm.trans hotherText) |>.2
  have hunits := hbody.unquoteUnits rest
  rw [hsame, hotherBody.unquoteUnits left] at hunits
  obtain ⟨hvalue, hrest⟩ := Prod.mk.inj (Option.some.inj hunits)
  have hchars := congrArg Text.ofUnits hvalue
  rw [Text.ofUnits_flatMap_units, Text.ofUnits_flatMap_units] at hchars
  exact ⟨String.toList_inj.mp hchars, hrest⟩

/-! ## The escapes of a literal -/

/-- What the escape of a character in a literal can be: one of the letters, digits
for a character that may not stand there, or the character itself. -/
theorem literalEscape_cases (c : Char) :
    (∃ letter, (letter, c) ∈ escapeLetters ∧ literalEscape c = ['\\', letter]) ∨
    (c.toNat < 0x10000 ∧ literalEscape c = Text.hexEscape c.toNat) ∨
    (0x20 ≤ c.toNat ∧ c ≠ '"' ∧ c ≠ '\\' ∧ isLineEnd c = false ∧ literalEscape c = [c]) := by
  unfold literalEscape
  split
  next hsep => exact Or.inr (Or.inl ⟨by omega, rfl⟩)
  next hsep =>
      unfold Text.escape
      split
      case h_8 hquote hbackslash _ _ _ _ _ =>
          by_cases hcontrol : c.toNat < 0x20
          · exact Or.inr (Or.inl ⟨by omega, if_pos hcontrol⟩)
          · have hprinted := Nat.le_of_not_lt hcontrol
            exact Or.inr (Or.inr ⟨hprinted, hquote, hbackslash,
              not_isLineEnd_of_printed hprinted hsep, if_neg hcontrol⟩)
      all_goals exact Or.inl ⟨_, by decide, rfl⟩

/-- The escape of a character is an element that denotes it. -/
theorem element_literalEscape (c : Char) : Element (literalEscape c) (Text.units c) := by
  rcases literalEscape_cases c with ⟨letter, hmem, hescape⟩ | ⟨hsmall, hescape⟩ |
    ⟨-, hquote, hbackslash, hend, hescape⟩ <;> rw [hescape]
  · rw [Text.units_of_small (Text.toNat_of_letterEscape? (letterEscape?_of_mem hmem).2)]
    exact Element.letter hmem
  · rw [Text.units_of_small hsmall]
    exact Element.digits (Text.hexDigits?_map_digitChar hsmall)
  · exact Element.plain hquote hbackslash hend

theorem body_flatMap (cs : List Char) :
    Body (cs.flatMap literalEscape) (cs.flatMap Text.units) := by
  induction cs with
  | nil => exact Body.nil
  | cons c cs ih =>
      rw [List.flatMap_cons, List.flatMap_cons]
      exact Body.cons (element_literalEscape c) ih

theorem toList_literal (value : String) :
    (literal value).toList = '"' :: value.toList.flatMap literalEscape ++ ['"'] := by
  rw [literal, String.toList_ofList, Text.quoteWith]

theorem readsLiteral_literal (value : String) (rest : List Char) :
    ReadsLiteral ((literal value).toList ++ rest) value rest := by
  refine ⟨value.toList.flatMap literalEscape, body_flatMap value.toList, ?_⟩
  rw [toList_literal]
  simp

/-! ## No character that ends a line -/

/-- A character that is no control character and ends no line. -/
def IsPrinted (c : Char) : Prop := 0x20 ≤ c.toNat ∧ isLineEnd c = false

instance (c : Char) : Decidable (IsPrinted c) := inferInstanceAs (Decidable (_ ∧ _))

theorem isPrinted_literalEscape (c : Char) : ∀ x ∈ literalEscape c, IsPrinted x := by
  rcases literalEscape_cases c with ⟨letter, hmem, hescape⟩ | ⟨-, hescape⟩ |
    ⟨hprinted, -, -, hend, hescape⟩ <;> rw [hescape]
  · have hall : ∀ pair ∈ escapeLetters, IsPrinted pair.1 := by decide
    simp only [List.forall_mem_cons]
    exact ⟨by decide, hall _ hmem, by simp⟩
  · exact Text.forall_mem_hexEscape (by decide) (by decide) (by decide) c.toNat
  · simpa using ⟨hprinted, hend⟩

theorem isPrinted_literal (value : String) : ∀ x ∈ (literal value).toList, IsPrinted x := by
  intro x hx
  rw [toList_literal, List.cons_append, List.mem_cons, List.mem_append, List.mem_flatMap,
    List.mem_singleton] at hx
  rcases hx with rfl | ⟨c, -, hescape⟩ | rfl
  · decide
  · exact isPrinted_literalEscape c x hescape
  · decide

/-! ## Quotes inside a literal -/

/-- The number of backslashes at the end of a text. -/
def backslashRun (cs : List Char) : Nat := (cs.reverse.takeWhile (· = '\\')).length

/-- After an even run the parity of a longer text's run is that of its second
part. -/
theorem backslashRun_append_mod_two {first : List Char} (hfirst : backslashRun first % 2 = 0)
    (second : List Char) :
    backslashRun (first ++ second) % 2 = backslashRun second % 2 := by
  unfold backslashRun at hfirst ⊢
  rw [List.reverse_append, List.takeWhile_append]
  split
  next hall =>
      -- The second part is backslashes only, and the run goes on into the first.
      rw [List.length_append, hall]
      omega
  next => rfl

theorem backslashRun_literalEscape (c : Char) : backslashRun (literalEscape c) % 2 = 0 := by
  rcases literalEscape_cases c with ⟨letter, hmem, hescape⟩ | ⟨-, hescape⟩ |
    ⟨-, -, hbackslash, -, hescape⟩ <;> rw [hescape]
  · have hall : ∀ pair ∈ escapeLetters, backslashRun ['\\', pair.1] % 2 = 0 := by decide
    exact hall _ hmem
  · have hall : ∀ d : Fin 16, Nat.digitChar d ≠ '\\' := by decide
    have hlast := hall ⟨c.toNat % 16, Nat.mod_lt _ (by decide)⟩
    simp [backslashRun, Text.hexEscape, hlast]
  · simp [backslashRun, hbackslash]

/-- A quote in an escape stands behind its one backslash. -/
theorem eq_of_literalEscape_eq {c : Char} {before after : List Char}
    (hescape : literalEscape c = before ++ '"' :: after) : before = ['\\'] := by
  have hmem : '"' ∈ before ++ '"' :: after := by simp
  rcases literalEscape_cases c with ⟨letter, -, hshape⟩ | ⟨-, hshape⟩ | ⟨-, hquote, -, -, hshape⟩
  · rw [hshape] at hescape
    cases before with
    | nil => exact absurd (List.cons.inj hescape).1 (by decide)
    | cons x before =>
        rw [List.cons_append] at hescape
        obtain ⟨rfl, htail⟩ := List.cons.inj hescape
        have hlength := congrArg List.length htail
        simp only [List.length_cons, List.length_append, List.length_nil] at hlength
        have hnil : before.length = 0 := by omega
        rw [List.length_eq_zero_iff.mp hnil]
  · have hquoteless : ∀ x ∈ Text.hexEscape c.toNat, x ≠ '"' :=
      Text.forall_mem_hexEscape (by decide) (by decide) (by decide) c.toNat
    rw [← hescape, hshape] at hmem
    exact absurd rfl (hquoteless _ hmem)
  · rw [← hescape, hshape, List.mem_singleton] at hmem
    exact absurd hmem.symm hquote

/-- Every quote inside a literal is escaped: the run of backslashes before it is
odd. -/
theorem backslashRun_of_flatMap_eq {cs before after : List Char}
    (hbody : cs.flatMap literalEscape = before ++ '"' :: after) :
    backslashRun before % 2 = 1 := by
  induction cs generalizing before with
  | nil => simp at hbody
  | cons c cs ih =>
      rw [List.flatMap_cons, List.append_eq_append_iff] at hbody
      -- The quote stands in a later escape, or in this one.
      rcases hbody with ⟨later, rfl, hrest⟩ | ⟨inner, hescape, hrest⟩
      · rw [backslashRun_append_mod_two (backslashRun_literalEscape c)]
        exact ih hrest
      · cases inner with
        | nil =>
            rw [List.append_nil] at hescape
            rw [List.nil_append] at hrest
            exact absurd (@ih [] hrest.symm) (by decide)
        | cons x inner =>
            obtain ⟨rfl, -⟩ := List.cons.inj hrest
            rw [eq_of_literalEscape_eq hescape]
            decide

/-! ## Two layers of escapes -/

/-- Put a text in the place of every occurrence of a character. -/
def replaceAll (target : Char) (text cs : List Char) : List Char :=
  cs.flatMap fun c => if c = target then text else [c]

theorem replaceAll_of_not_mem {target : Char} {text cs : List Char} (hmem : target ∉ cs) :
    replaceAll target text cs = cs := by
  induction cs with
  | nil => rfl
  | cons c cs ih =>
      rw [List.mem_cons, not_or] at hmem
      rw [replaceAll, List.flatMap_cons, if_neg (Ne.symm hmem.1), ← replaceAll, ih hmem.2]
      rfl

theorem replaceAll_append (target : Char) (text first second : List Char) :
    replaceAll target text (first ++ second) =
      replaceAll target text first ++ replaceAll target text second := by
  rw [replaceAll, List.flatMap_append]
  rfl

theorem replaceAll_flatMap (target : Char) (text cs : List Char) (rule : Char → List Char) :
    replaceAll target text (cs.flatMap rule) =
      cs.flatMap fun c => replaceAll target text (rule c) := by
  rw [replaceAll, List.flatMap_assoc]
  rfl

/-- A literal as the two layers write it. -/
def replacedLiteral (value : String) : List Char :=
  replaceAll '\u2029' "\\u2029".toList (replaceAll '\u2028' "\\u2028".toList (Json.quoted value))

theorem ne_of_isPrinted {c target : Char} (hprinted : IsPrinted c)
    (htarget : isLineEnd target = true) : target ≠ c := by
  rintro rfl
  exact absurd (htarget.symm.trans hprinted.2) (by decide)

/-- One character goes through both layers. -/
theorem replaceAll_escape (c : Char) :
    replaceAll '\u2029' "\\u2029".toList (replaceAll '\u2028' "\\u2028".toList (Text.escape c)) =
      literalEscape c := by
  by_cases hline : c = '\u2028'
  · rw [hline]
    decide
  by_cases hparagraph : c = '\u2029'
  · rw [hparagraph]
    decide
  have hplain : literalEscape c = Text.escape c := by
    apply if_neg
    rintro (hc | hc)
    · exact hline (Char.toNat_inj.mp hc)
    · exact hparagraph (Char.toNat_inj.mp hc)
  have hsep {target : Char} (htarget : isLineEnd target = true) : target ∉ Text.escape c := by
    intro hmem
    rw [← hplain] at hmem
    exact ne_of_isPrinted (isPrinted_literalEscape c target hmem) htarget rfl
  rw [replaceAll_of_not_mem (hsep (by decide)), replaceAll_of_not_mem (hsep (by decide)), hplain]

/-- Quoting a text and then replacing the line separators is writing its literal. -/
theorem replacedLiteral_eq (value : String) : replacedLiteral value = (literal value).toList := by
  have hquote {target : Char} (htarget : target ≠ '"') (text cs : List Char) :
      replaceAll target text ('"' :: cs ++ ['"']) = '"' :: replaceAll target text cs ++ ['"'] := by
    have hmark : replaceAll target text ['"'] = ['"'] :=
      replaceAll_of_not_mem (by simpa using htarget)
    rw [List.cons_append, ← List.singleton_append, replaceAll_append, replaceAll_append, hmark]
    rfl
  rw [replacedLiteral, Json.quoted, Text.quoteWith, hquote (by decide), hquote (by decide),
    replaceAll_flatMap, replaceAll_flatMap, toList_literal]
  simp only [replaceAll_escape]

/-! ## Exact literals -/

/-- The literal of a text is what the two layers write. With any text behind it, it
is read in exactly one way: as that text, and with what stands behind it left. It
holds no control character and no line end, and every quote between its first and
its last character is escaped. -/
theorem literal_exact (value : String) (rest : List Char) :
    (literal value).toList = replacedLiteral value ∧
    (∀ found left, ReadsLiteral ((literal value).toList ++ rest) found left ↔
      found = value ∧ left = rest) ∧
    (∀ c ∈ (literal value).toList, IsPrinted c) ∧
    ∃ body, (literal value).toList = '"' :: body ++ ['"'] ∧
      ∀ before after, body = before ++ '"' :: after → backslashRun before % 2 = 1 := by
  refine ⟨(replacedLiteral_eq value).symm, ?_, isPrinted_literal value,
    value.toList.flatMap literalEscape, toList_literal value, ?_⟩
  · intro found left
    constructor
    · exact (readsLiteral_literal value rest).unique
    · rintro ⟨rfl, rfl⟩
      exact readsLiteral_literal found left
  · intro before after hbody
    exact backslashRun_of_flatMap_eq hbody

end WindowScript.Script
