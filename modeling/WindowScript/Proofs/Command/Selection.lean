/-
# Selectors are read exactly

A selector that starts with a percent sign is the whole stack or a numeral with an
optional sign. Reading converts the numeral to a double-precision number and keeps
it if it lies where integers are exact. Rounding never leads into that range, so the
position is always the exact value of the numeral, and a numeral beyond the range is
refused, however long it is.

The position is written back into the script in the four places that depend on it.
What is written there is the plain decimal text of the value, without the sign and
the zeros that the user may have put before it.
-/

import WindowScript.Proofs.Command.Grammar
import WindowScript.Proofs.Number.Numeral
import WindowScript.Proofs.Number.Rounding
import WindowScript.Proofs.Script.Heads
import WindowScript.Proofs.Script.Literal

namespace WindowScript

namespace Selector

open Number (Numeral SignedNumeral)

/-! ## Positions -/

theorem digitsNumber?_eq_some_iff {negative : Bool} {ds : List Char} {x : Number} :
    digitsNumber? negative ds = some x ↔
      ∃ n, Numeral ds n ∧ x = Number.ofInt (Number.signed negative n) := by
  simp only [digitsNumber?, Number.numeral_iff]
  split
  next hdigits =>
      constructor
      · intro hx
        exact ⟨_, ⟨hdigits, rfl⟩, (Option.some.inj hx).symm⟩
      · rintro ⟨n, ⟨-, rfl⟩, rfl⟩
        rfl
  next hdigits =>
      constructor
      · intro hx
        cases hx
      · rintro ⟨n, ⟨hds, -⟩, -⟩
        exact absurd hds hdigits

/-- A numeral with or without a sign is read as the number nearest to its value. -/
theorem signedNumber?_eq_some_iff {cs : List Char} {x : Number} :
    signedNumber? cs = some x ↔ ∃ n, SignedNumeral cs n ∧ x = Number.ofInt n := by
  constructor
  · intro hread
    unfold signedNumber? at hread
    split at hread
    next ds =>
        obtain ⟨n, hds, rfl⟩ := digitsNumber?_eq_some_iff.mp hread
        exact ⟨n, .plus hds, rfl⟩
    next ds =>
        obtain ⟨n, hds, rfl⟩ := digitsNumber?_eq_some_iff.mp hread
        exact ⟨-n, .minus hds, rfl⟩
    next =>
        obtain ⟨n, hds, rfl⟩ := digitsNumber?_eq_some_iff.mp hread
        exact ⟨n, .plain hds, rfl⟩
  · rintro ⟨n, hcs, rfl⟩
    cases hcs with
    | plus hds => exact digitsNumber?_eq_some_iff.mpr ⟨_, hds, rfl⟩
    | minus hds => exact digitsNumber?_eq_some_iff.mpr ⟨_, hds, rfl⟩
    | plain hds =>
        unfold signedNumber?
        split
        · exact absurd rfl (hds.head_ne (by decide))
        · exact absurd rfl (hds.head_ne (by decide))
        · exact digitsNumber?_eq_some_iff.mpr ⟨_, hds, rfl⟩

/-- The largest position, behind which integers are no longer told apart. -/
def maxPosition : Nat := Number.twoTo 53 - 1

/-- A position is the exact value of its numeral. -/
theorem position?_eq_some_iff {cs : List Char} {n : Int} :
    position? cs = some n ↔ SignedNumeral cs n ∧ n.natAbs ≤ maxPosition := by
  have hsafe (m : Int) : (Number.ofInt m).safeInteger? = some n ↔
      m = n ∧ n.natAbs ≤ maxPosition := by
    have hbound : m.natAbs < Number.twoTo 53 ↔ m.natAbs ≤ maxPosition := by
      rw [Nat.lt_iff_le_pred (by decide)]
      rfl
    rw [Number.safeInteger?_ofInt]
    split
    next hlt =>
        constructor
        · rintro ⟨⟩
          exact ⟨rfl, hbound.mp hlt⟩
        · rintro ⟨rfl, -⟩
          rfl
    next hlt =>
        constructor
        · rintro ⟨⟩
        · rintro ⟨rfl, hle⟩
          exact absurd (hbound.mpr hle) hlt
  rw [position?, Option.bind_eq_some_iff]
  constructor
  · rintro ⟨x, hx, hn⟩
    obtain ⟨m, hcs, rfl⟩ := signedNumber?_eq_some_iff.mp hx
    obtain ⟨rfl, hle⟩ := (hsafe m).mp hn
    exact ⟨hcs, hle⟩
  · rintro ⟨hcs, hle⟩
    exact ⟨_, signedNumber?_eq_some_iff.mpr ⟨n, hcs, rfl⟩, (hsafe n).mpr ⟨rfl, hle⟩⟩

/-! ## Tokens -/

/-- A token that stands for a stack position: a percent sign and a numeral, with or without
a sign, whose value lies in the exact range. -/
def IsPosition (token : String) (n : Int) : Prop :=
  ∃ written, token.toList = '%' :: written ∧ SignedNumeral written n ∧ n.natAbs ≤ maxPosition

variable {token : String}

theorem IsPosition.unique {m n : Int} (hm : IsPosition token m) (hn : IsPosition token n) :
    m = n := by
  obtain ⟨written, htoken, hwritten, -⟩ := hm
  obtain ⟨other, htoken', hother, -⟩ := hn
  rw [htoken] at htoken'
  obtain rfl := (List.cons.inj htoken').2
  exact hwritten.unique hother

theorem not_signedNumeral_at {n : Int} : ¬ SignedNumeral ['@'] n := by
  intro hat
  cases hat with
  | plain hds => exact absurd rfl (hds.head_ne (by decide : '@'.isDigit = false))

theorem not_isPosition_all (n : Int) : ¬ IsPosition "%@" n := by
  rintro ⟨written, htoken, hwritten, -⟩
  obtain rfl : ['@'] = written := (List.cons.inj htoken).2
  exact not_signedNumeral_at hwritten

/-- What a token can be: the whole stack, a position or nothing if it starts with a
percent sign, and a window id else. -/
theorem ofToken?_cases (token : String) :
    (token = "%@" ∧ ofToken? token = some .all) ∨
    (token ≠ "%@" ∧ token.toList.head? = some '%' ∧
      ((∃ n, IsPosition token n ∧ ofToken? token = some (.index n)) ∨
        ((∀ n, ¬ IsPosition token n) ∧ ofToken? token = none))) ∨
    (token.toList.head? ≠ some '%' ∧ ofToken? token = some (.window token)) := by
  unfold ofToken?
  split
  next hchars =>
      have hall : token = "%@" := String.toList_inj.mp hchars
      exact .inl ⟨hall, rfl⟩
  next rest hrest hchars =>
      have hne : token ≠ "%@" := by
        rintro rfl
        exact hrest (List.cons.inj hchars).2.symm
      refine .inr (.inl ⟨hne, by rw [hchars]; rfl, ?_⟩)
      cases hposition : position? rest with
      | some n => exact .inl ⟨n, ⟨rest, hchars, position?_eq_some_iff.mp hposition⟩, rfl⟩
      | none =>
          refine .inr ⟨?_, rfl⟩
          rintro n ⟨written, hwritten, hn⟩
          rw [hchars] at hwritten
          obtain rfl := (List.cons.inj hwritten).2
          rw [position?_eq_some_iff.mpr hn] at hposition
          cases hposition
  next hother =>
      refine .inr (.inr ⟨fun hhead => ?_, rfl⟩)
      obtain ⟨rest, hchars⟩ := List.head?_eq_some_iff.mp hhead
      exact hother rest hchars

theorem ofToken?_eq_all_iff : ofToken? token = some .all ↔ token = "%@" := by
  constructor
  · intro hall
    rcases ofToken?_cases token with ⟨htoken, -⟩ | ⟨-, -, ⟨n, -, hread⟩ | ⟨-, hread⟩⟩ | ⟨-, hread⟩
    · exact htoken
    all_goals
      rw [hread] at hall
      cases hall
  · rintro rfl
    rfl

theorem ofToken?_eq_index_iff {n : Int} :
    ofToken? token = some (.index n) ↔ IsPosition token n := by
  rcases ofToken?_cases token with ⟨rfl, hread⟩ | ⟨-, -, ⟨m, hm, hread⟩ | ⟨hnone, hread⟩⟩ |
    ⟨hhead, hread⟩ <;> rw [hread]
  · exact iff_of_false (by simp) (not_isPosition_all n)
  · constructor
    · rintro ⟨⟩
      exact hm
    · intro hn
      rw [hm.unique hn]
  · exact iff_of_false (by simp) (hnone n)
  · apply iff_of_false (by simp)
    rintro ⟨written, hchars, -⟩
    rw [hchars] at hhead
    exact hhead rfl

theorem ofToken?_eq_window_iff {id : String} :
    ofToken? token = some (.window id) ↔ id = token ∧ token.toList.head? ≠ some '%' := by
  rcases ofToken?_cases token with ⟨rfl, hread⟩ | ⟨-, hhead, ⟨m, -, hread⟩ | ⟨-, hread⟩⟩ |
    ⟨hhead, hread⟩ <;> rw [hread]
  · exact iff_of_false (by simp) fun hid => hid.2 rfl
  · exact iff_of_false (by simp) fun hid => hid.2 hhead
  · exact iff_of_false (by simp) fun hid => hid.2 hhead
  · constructor
    · rintro ⟨⟩
      exact ⟨rfl, hhead⟩
    · rintro ⟨rfl, -⟩
      rfl

theorem ofToken?_eq_none_iff :
    ofToken? token = none ↔
      token ≠ "%@" ∧ token.toList.head? = some '%' ∧ ∀ n, ¬ IsPosition token n := by
  rcases ofToken?_cases token with ⟨htoken, hread⟩ | ⟨hne, hhead, ⟨m, hm, hread⟩ | ⟨hnone, hread⟩⟩ |
    ⟨hhead, hread⟩ <;> rw [hread]
  · exact iff_of_false (by simp) fun hrefused => hrefused.1 htoken
  · exact iff_of_false (by simp) fun hrefused => hrefused.2.2 m hm
  · exact iff_of_true rfl ⟨hne, hhead, hnone⟩
  · exact iff_of_false (by simp) fun hrefused => hhead hrefused.2.1

/-! ## Refusal -/

open Command (TermCheck isOption isVerb)

/-- The token is no selector, and where an action takes it for its operand, the command
line is refused with an error that names it. -/
def Rejected (token : String) : Prop :=
  ofToken? token = none ∧
    ∀ (check : TermCheck) (action : Action) (options rest : List String),
      (∀ option ∈ options, isOption option) →
      ∃ error, Command.read check action.verb (options ++ token :: rest) = ⟨.error error, rest⟩ ∧
        error.token? = some token ∧ error.message = "invalid window selector: " ++ token

theorem isVerb_of_head?_percent (hhead : token.toList.head? = some '%') : isVerb token = false := by
  rw [Bool.eq_false_iff]
  intro hverb
  rcases Command.isVerb_iff.mp hverb with rfl | rfl | ⟨action, rfl⟩
  · exact absurd hhead (by decide)
  · exact absurd hhead (by decide)
  · cases action <;> exact absurd hhead (by decide)

theorem rejected_of_eq_none (hnone : ofToken? token = none) : Rejected token := by
  refine ⟨hnone, fun check action options rest hoptions => ?_⟩
  obtain ⟨-, hhead, -⟩ := ofToken?_eq_none_iff.mp hnone
  have hoption : isOption token = false := by simp [isOption, hhead]
  refine ⟨.invalidSelector token, ?_, rfl, rfl⟩
  rw [Command.read_verb, Command.readAction, Command.dropWhile_options hoptions (by simpa)]
  simp [isVerb_of_head?_percent hhead, hnone]

end Selector

namespace Script

/-! ## Positions in scripts -/

/-- A character that a literal does not escape. -/
def isBare (c : Char) : Bool := literalEscape c = [c]

theorem literal_of_bare {value : String} (hvalue : value.toList.all isBare) :
    literal value = "\"" ++ value ++ "\"" := by
  have hbody : value.toList.flatMap literalEscape = value.toList := by
    rw [List.all_eq_true] at hvalue
    calc value.toList.flatMap literalEscape = value.toList.flatMap List.singleton :=
          List.flatMap_congr fun c hc => of_decide_eq_true (hvalue c hc)
      _ = value.toList := List.flatMap_singleton' _
  rw [← String.toList_inj, toList_literal, hbody]
  simp

theorem isBare_decimalInt (n : Int) : (Number.decimalInt n).toList.all isBare := by
  have hdigit (d : Fin 10) : isBare (Nat.digitChar d) := by
    revert d
    decide
  have hdigits (k : Nat) : (Number.digits k).all isBare := by
    rw [List.all_eq_true]
    intro c hc
    have hc' := Nat.isDigit_of_mem_toDigits (by decide) (by decide) hc
    obtain ⟨d, rfl⟩ := Number.exists_digitChar hc'
    exact hdigit d
  rw [Number.toList_decimalInt]
  split
  · rw [List.all_cons, hdigits]
    decide
  · exact hdigits _

theorem isBare_outOfRange (n : Int) : (outOfRange n).toList.all isBare := by
  unfold outOfRange
  rw [String.toList_append, String.toList_append, List.all_append, List.all_append,
    isBare_decimalInt, Bool.and_true, Bool.and_eq_true]
  constructor <;> with_reducible exact toList_ofList_of (List.all · isBare) (by decide)

theorem isBare_label (action : Action) : ("STEP " ++ action.verb).toList.all isBare := by
  cases action <;> decide +kernel

/-- An action on one window of the stack, as script text, with the position written out
as `index`. -/
def stackItemText (action : Action) (index : String) : String :=
  "    \x7b\n" ++
  "        output_debug(" ++ "\"" ++ "STEP " ++ action.verb ++ "\"" ++ ");\n" ++
  "        if (window_stack.length > 0) \x7b\n            if (" ++ index ++
    " > window_stack.length || " ++ index ++ " < 1) \x7b\n                output_error(" ++
    "\"" ++ "Invalid window stack selection '" ++ index ++ "' (out of range)" ++ "\"" ++
    ");\n            \x7d else \x7b\n                var w = window_stack[" ++ index ++
    " - 1];\n                " ++ action.fragment ++ "\n" ++
  "            \x7d\n" ++
  "        \x7d\n" ++
  "    \x7d\n"

theorem joinPieces_onStackItem (target : Target) (action : Action) (n : Int) :
    joinPieces (stepPieces target (Step.ofSelector action (.index n))) =
      stackItemText action (toString n) := by
  unfold Step.ofSelector stepPieces onStackItemPieces debugLine stackItemText
  dsimp only
  rw [← Number.decimalInt_eq_toString]
  simp only [joinPieces, List.cons_append, List.nil_append, List.map_cons, List.map_nil,
    String.join_cons, String.join_nil, Piece.text]
  rw [literal_of_bare (isBare_label action), literal_of_bare (isBare_outOfRange n)]
  unfold outOfRange
  simp only [String.append_assoc, String.append_empty]

end Script

namespace Selector

open Number (Numeral SignedNumeral)

theorem isPosition_toString {n : Int} (hn : n.natAbs ≤ maxPosition) :
    IsPosition ("%" ++ toString n) n := by
  refine ⟨(toString n).toList, by rw [String.toList_append]; rfl, ?_, hn⟩
  rw [← Number.decimalInt_eq_toString]
  exact Number.signedNumeral_decimalInt n

/-- A token is the whole stack exactly if it is `%@`, a position exactly if it is a percent
sign before a numeral with or without a sign, whose exact value lies within `2 ^ 53 - 1` of
zero, and a window id exactly if it does not start with a percent sign. Every other token is
rejected, and so is a numeral beyond these bounds, instead of being rounded. Hence every
position in these bounds can be given by its decimal text, and the script for a position that
was read holds exactly that text: twice in its bound check, in its message and in its
access. -/
theorem ofToken?_exact (token : String) :
    (ofToken? token = some .all ↔ token = "%@") ∧
    (∀ n, ofToken? token = some (.index n) ↔ IsPosition token n) ∧
    (∀ id, ofToken? token = some (.window id) ↔ id = token ∧ token.toList.head? ≠ some '%') ∧
    (token ≠ "%@" → token.toList.head? = some '%' → (∀ n, ¬ IsPosition token n) →
      Rejected token) ∧
    (∀ written n, token.toList = '%' :: written → SignedNumeral written n →
      maxPosition < n.natAbs → Rejected token) ∧
    (∀ n : Int, n.natAbs ≤ maxPosition → ofToken? ("%" ++ toString n) = some (.index n)) ∧
    ∀ n, ofToken? token = some (.index n) → ∀ (target : Script.Target) (action : Action),
      Script.joinPieces (Script.stepPieces target (Step.ofSelector action (.index n))) =
        Script.stackItemText action (toString n) := by
  refine ⟨ofToken?_eq_all_iff, fun n => ofToken?_eq_index_iff, fun id => ofToken?_eq_window_iff,
    ?_, ?_, ?_, ?_⟩
  · intro hall hhead hnone
    exact rejected_of_eq_none (ofToken?_eq_none_iff.mpr ⟨hall, hhead, hnone⟩)
  · intro written n htoken hwritten hlarge
    have hnone : ∀ m, ¬ IsPosition token m := by
      rintro m ⟨other, htoken', hother, hm⟩
      rw [htoken] at htoken'
      obtain rfl := (List.cons.inj htoken').2
      rw [hother.unique hwritten] at hm
      exact absurd hlarge (Nat.not_lt.mpr hm)
    have hall : token ≠ "%@" := by
      rintro rfl
      obtain rfl : ['@'] = written := (List.cons.inj htoken).2
      exact not_signedNumeral_at hwritten
    exact rejected_of_eq_none (ofToken?_eq_none_iff.mpr ⟨hall, by rw [htoken]; rfl, hnone⟩)
  · exact fun n hn => ofToken?_eq_index_iff.mpr (isPosition_toString hn)
  · exact fun n _ target action => Script.joinPieces_onStackItem target action n

/-- Leading zeros, the last position, and a numeral that the nearest double-precision
number would change. -/
theorem ofToken?_exact_limits :
    ofToken? "%-007" = some (.index (-7)) ∧
    ofToken? ("%" ++ toString (-9007199254740991 : Int)) = some (.index (-9007199254740991)) ∧
    Rejected "%9007199254740993" ∧
    Script.joinPieces (Script.stepPieces ⟨"m", false, false⟩
        (Step.ofSelector .close (.index (-7)))) = Script.stackItemText .close "-7" := by
  have hseven : Numeral ['0', '0', '7'] 7 := .snoc (.snoc (.digit 0) 0) 7
  have hlarge : Numeral "9007199254740993".toList 9007199254740993 :=
    Number.numeral_iff.mpr (by decide)
  obtain ⟨-, hindex, -, -, -, hdecimal, hscript⟩ := ofToken?_exact "%-007"
  obtain ⟨-, -, -, -, hrefused, -⟩ := ofToken?_exact "%9007199254740993"
  have hread : ofToken? "%-007" = some (.index (-7)) :=
    (hindex (-7)).mpr ⟨_, rfl, .minus hseven, by decide⟩
  exact ⟨hread, hdecimal _ (by decide), hrefused _ _ rfl (.plain hlarge) (by decide),
    hscript _ hread _ _⟩

end Selector

end WindowScript
