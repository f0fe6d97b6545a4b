/-
# JSON text is one line

A value is written without blanks between its parts, and a control character inside
a string is written as an escape. So the text of a value holds no control character
at all, in particular nothing that ends a line, however deep its strings and keys
lie.
-/

import WindowScript.Json.Printer
import WindowScript.Proofs.Text.Quoted

namespace WindowScript.Text

/-- No character of a text is a control character. -/
def Uncontrolled (cs : List Char) : Prop := ∀ c ∈ cs, 0x20 ≤ c.toNat

instance (cs : List Char) : Decidable (Uncontrolled cs) :=
  List.decidableBAll (p := fun c : Char => 0x20 ≤ c.toNat) cs

theorem uncontrolled_nil : Uncontrolled [] := by
  simp [Uncontrolled]

theorem uncontrolled_cons_iff {c : Char} {cs : List Char} :
    Uncontrolled (c :: cs) ↔ 0x20 ≤ c.toNat ∧ Uncontrolled cs :=
  List.forall_mem_cons

theorem uncontrolled_append_iff {first second : List Char} :
    Uncontrolled (first ++ second) ↔ Uncontrolled first ∧ Uncontrolled second :=
  List.forall_mem_append

theorem Uncontrolled.of_subset {cs other : List Char} (hcs : Uncontrolled cs)
    (hsubset : other ⊆ cs) : Uncontrolled other :=
  fun c hc => hcs c (hsubset hc)

theorem uncontrolled_flatMap {rule : Char → List Char} (hrule : ∀ c, Uncontrolled (rule c))
    (cs : List Char) : Uncontrolled (cs.flatMap rule) := by
  intro x hx
  obtain ⟨c, -, hc⟩ := List.mem_flatMap.mp hx
  exact hrule c x hc

theorem uncontrolled_intercalate {separator : List Char} {texts : List (List Char)}
    (hseparator : Uncontrolled separator) (htexts : ∀ text ∈ texts, Uncontrolled text) :
    Uncontrolled (List.intercalate separator texts) := by
  induction texts with
  | nil => exact uncontrolled_nil
  | cons text texts ih =>
      obtain ⟨htext, hrest⟩ := List.forall_mem_cons.mp htexts
      cases texts with
      | nil => rwa [List.intercalate_singleton]
      | cons next texts =>
          rw [List.intercalate_cons_cons, uncontrolled_append_iff, uncontrolled_append_iff]
          exact ⟨⟨htext, hseparator⟩, ih hrest⟩

theorem feed_not_mem_of_uncontrolled {cs : List Char} (hcs : Uncontrolled cs) : '\n' ∉ cs :=
  fun hmem => absurd (hcs '\n' hmem) (by decide)

/-! ## Quoted text -/

theorem uncontrolled_hexEscape (n : Nat) : Uncontrolled (hexEscape n) :=
  forall_mem_hexEscape (by decide) (by decide) (by decide) n

theorem uncontrolled_escape (c : Char) : Uncontrolled (escape c) := by
  rcases escape_cases c with ⟨letter, -, hletter, hescape⟩ | ⟨-, hescape⟩ |
    ⟨hprinted, -, -, hescape⟩ <;> rw [hescape]
  · have hprinted : 0x20 ≤ letter.toNat := by
      unfold letterEscape? at hletter
      split at hletter <;> first | decide | exact absurd hletter (by simp)
    rw [uncontrolled_cons_iff, uncontrolled_cons_iff]
    exact ⟨by decide, hprinted, uncontrolled_nil⟩
  · exact uncontrolled_hexEscape c.toNat
  · rw [uncontrolled_cons_iff]
    exact ⟨hprinted, uncontrolled_nil⟩

end WindowScript.Text

namespace WindowScript.Number

open WindowScript.Text

/-! ## Numbers -/

theorem uncontrolled_digits (n : Nat) : Uncontrolled (digits n) := by
  intro c hc
  have hdigit := Nat.isDigit_of_mem_toDigits (by decide) (by decide) hc
  exact Nat.le_trans (by decide) (Char.isDigit_iff_toNat.mp hdigit).1

theorem uncontrolled_replicate_zero (count : Nat) :
    Uncontrolled (List.replicate count '0') := by
  intro c hc
  rw [List.eq_of_mem_replicate hc]
  decide

theorem uncontrolled_place {ds : List Char} (hds : Uncontrolled ds) (point : Int) :
    Uncontrolled (place ds point) := by
  have hexponent : Uncontrolled ('e' :: (if point ≤ 0 then '-' else '+') ::
      digits (point - 1).natAbs) := by
    rw [uncontrolled_cons_iff, uncontrolled_cons_iff]
    refine ⟨by decide, ?_, uncontrolled_digits _⟩
    split <;> decide
  unfold place
  dsimp only
  split
  · exact uncontrolled_append_iff.mpr ⟨hds, uncontrolled_replicate_zero _⟩
  split
  · rw [uncontrolled_append_iff, uncontrolled_cons_iff]
    exact ⟨hds.of_subset (List.take_subset _ _), by decide, hds.of_subset (List.drop_subset _ _)⟩
  split
  · simp only [List.cons_append, uncontrolled_cons_iff, uncontrolled_append_iff]
    exact ⟨by decide, by decide, uncontrolled_replicate_zero _, hds⟩
  split
  · exact hexponent
  next d =>
      rw [uncontrolled_cons_iff] at hds ⊢
      exact ⟨hds.1, hexponent⟩
  next d more _ =>
      rw [uncontrolled_cons_iff] at hds
      simp only [List.cons_append]
      rw [uncontrolled_cons_iff, uncontrolled_cons_iff, uncontrolled_append_iff]
      exact ⟨hds.1, by decide, hds.2, hexponent⟩

theorem uncontrolled_positiveText (num den : Nat) :
    Uncontrolled (positiveText num den).toList := by
  rw [positiveText, String.toList_ofList]
  apply uncontrolled_place
  rw [shortest]
  apply (uncontrolled_digits _).of_subset
  intro c hc
  rw [dropZeros, List.mem_reverse] at hc
  exact List.mem_reverse.mp ((List.dropWhile_sublist _).subset hc)

theorem uncontrolled_withSign {text : String} (negative : Bool)
    (htext : Uncontrolled text.toList) : Uncontrolled (withSign negative text).toList := by
  unfold withSign
  split
  · rw [String.toList_append, uncontrolled_append_iff]
    exact ⟨by decide, htext⟩
  · exact htext

theorem uncontrolled_decimalInt (n : Int) : Uncontrolled (decimalInt n).toList := by
  rw [toList_decimalInt]
  split
  · rw [uncontrolled_cons_iff]
    exact ⟨by decide, uncontrolled_digits _⟩
  · exact uncontrolled_digits _

theorem uncontrolled_text (n : Number) : Uncontrolled n.text.toList := by
  cases n with
  | integer value =>
      rw [text]
      split
      · exact uncontrolled_decimalInt value
      · exact uncontrolled_withSign _ (uncontrolled_positiveText _ _)
  | fraction negative numerator shift =>
      exact uncontrolled_withSign negative (uncontrolled_positiveText _ _)
  | infinite negative => exact uncontrolled_withSign negative (by decide)

end WindowScript.Number

namespace WindowScript.Json

open WindowScript.Text

/-! ## Members of an object -/

theorem mem_of_mem_put {α : Type} {key : String} {value : α} {member : String × α}
    {members : List (String × α)} (hmem : member ∈ put key value members) :
    member = (key, value) ∨ member ∈ members := by
  induction members with
  | nil => exact Or.inl (List.mem_singleton.mp hmem)
  | cons first members ih =>
      rw [put] at hmem
      split at hmem
      · rcases List.mem_cons.mp hmem with hfirst | hrest
        · exact Or.inl hfirst
        · exact Or.inr (List.mem_cons_of_mem first hrest)
      · rcases List.mem_cons.mp hmem with rfl | hrest
        · exact Or.inr List.mem_cons_self
        · rcases ih hrest with hnew | hold
          · exact Or.inl hnew
          · exact Or.inr (List.mem_cons_of_mem first hold)

theorem mem_of_mem_foldl_put {α : Type} {member : String × α} {pairs members : List (String × α)}
    (hmem : member ∈ pairs.foldl (fun found pair => put pair.1 pair.2 found) members) :
    member ∈ pairs ∨ member ∈ members := by
  induction pairs generalizing members with
  | nil => exact Or.inr hmem
  | cons pair pairs ih =>
      rcases ih hmem with hlater | hput
      · exact Or.inl (List.mem_cons_of_mem pair hlater)
      · rcases mem_of_mem_put hput with hpair | hold
        · exact Or.inl (hpair ▸ List.mem_cons_self)
        · exact Or.inr hold

/-- Members are rearranged and dropped, and nothing else. -/
theorem mem_of_mem_arrange {α : Type} {member : String × α} {pairs : List (String × α)}
    (hmem : member ∈ arrange pairs) : member ∈ pairs := by
  have hcollapse : member ∈ collapse pairs := by
    rw [arrange, List.mem_append] at hmem
    rcases hmem with hindexed | hplain
    · simp only [List.mem_map, List.mem_mergeSort, List.mem_filterMap, Option.map_eq_some_iff]
        at hindexed
      obtain ⟨_, ⟨found, hfound, n, -, rfl⟩, rfl⟩ := hindexed
      exact hfound
    · exact (List.mem_filter.mp hplain).1
  rcases mem_of_mem_foldl_put hcollapse with hpair | hnone
  · exact hpair
  · exact absurd hnone List.not_mem_nil

/-! ## Values -/

theorem uncontrolled_quoted (s : String) : Uncontrolled (quoted s) := by
  rw [quoted, quoteWith, List.cons_append, uncontrolled_cons_iff, uncontrolled_append_iff]
  exact ⟨by decide, uncontrolled_flatMap uncontrolled_escape _, by decide⟩

theorem uncontrolled_memberText {member : String × List Char} (hmember : Uncontrolled member.2) :
    Uncontrolled (memberText member) := by
  rw [memberText, uncontrolled_append_iff, uncontrolled_cons_iff]
  exact ⟨uncontrolled_quoted member.1, by decide, hmember⟩

theorem uncontrolled_numberText (n : Number) : Uncontrolled (numberText n) := by
  unfold numberText
  split
  · decide
  · exact Number.uncontrolled_text n

mutual

/-- The text of a value holds no control character. -/
theorem uncontrolled_chars : (value : Json) → Uncontrolled (chars value)
  | .null => by
      rw [chars]
      decide
  | .bool b => by
      rw [chars]
      cases b <;> decide
  | .number n => by
      rw [chars]
      exact uncontrolled_numberText n
  | .string s => by
      rw [chars]
      exact uncontrolled_quoted s
  | .array items => by
      rw [chars, List.cons_append, uncontrolled_cons_iff, uncontrolled_append_iff]
      exact ⟨by decide, uncontrolled_intercalate (by decide) (uncontrolled_itemTexts items),
        by decide⟩
  | .object members => by
      rw [chars, List.cons_append, uncontrolled_cons_iff, uncontrolled_append_iff]
      refine ⟨by decide, uncontrolled_intercalate (by decide) ?_, by decide⟩
      intro text htext
      obtain ⟨member, hmember, rfl⟩ := List.mem_map.mp htext
      exact uncontrolled_memberText
        (uncontrolled_memberTexts members member (mem_of_mem_arrange hmember))

theorem uncontrolled_itemTexts : (items : List Json) → ∀ text ∈ itemTexts items, Uncontrolled text
  | [] => by simp [itemTexts]
  | item :: rest => by
      rw [itemTexts, List.forall_mem_cons]
      exact ⟨uncontrolled_chars item, uncontrolled_itemTexts rest⟩

theorem uncontrolled_memberTexts : (members : List (String × Json)) →
    ∀ member ∈ memberTexts members, Uncontrolled member.2
  | [] => by simp [memberTexts]
  | member :: rest => by
      rw [memberTexts, List.forall_mem_cons]
      exact ⟨uncontrolled_chars member.2, uncontrolled_memberTexts rest⟩

end

/-- The text of a value is one line. -/
theorem feed_not_mem_text (value : Json) : '\n' ∉ value.text.toList := by
  rw [text, String.toList_ofList]
  exact feed_not_mem_of_uncontrolled (uncontrolled_chars value)

end WindowScript.Json
