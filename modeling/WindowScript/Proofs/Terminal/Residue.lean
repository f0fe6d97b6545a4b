/-
# What stripping leaves behind

Stripping goes over a text once. It removes the sequences that stand in the text, and
where it removes one, the characters before and after it meet. These may make up a
sequence that was not there before, so the result of stripping can hold sequences and
stripping it again can change it.

`Resurfaces` says of a text, without stripping it, that this happens: an escape character
outside of all sequences begins none itself, but what follows it would go on as one if
the sequences in between were not there. Nothing else can go wrong. For every other text
the result is clean, and with it the lines of the run log and the payloads that are
recovered from a journal.
-/

import Mathlib.Data.List.Infix
import WindowScript.Proofs.Journal.Marker
import WindowScript.Proofs.Terminal.Stripping
import WindowScript.Proofs.Text.Lines
import WindowScript.RunLog.Entry

namespace WindowScript.Terminal

/-! ## Clean texts -/

/-- A text that holds no complete sequence. -/
def Clean (cs : List Char) : Prop := ∀ seq, Sequence seq → ¬ esc :: seq <:+: cs

theorem clean_nil : Clean [] := by
  intro seq _ hheld
  simp at hheld

theorem clean_cons_iff {c : Char} {cs : List Char} :
    Clean (c :: cs) ↔ (c = esc → afterSequence? cs = none) ∧ Clean cs := by
  constructor
  · intro hclean
    refine ⟨?_, fun seq hseq hheld => hclean seq hseq (List.infix_cons hheld)⟩
    rintro rfl
    rw [afterSequence?_eq_none_iff]
    rintro seq rest hseq rfl
    exact hclean seq hseq (List.prefix_append (esc :: seq) rest).isInfix
  · rintro ⟨hhead, htail⟩ seq hseq hheld
    rcases List.infix_cons_iff.mp hheld with hstart | hheld
    · obtain ⟨rfl, rest, rfl⟩ := List.cons_prefix_cons.mp hstart
      exact afterSequence?_eq_none_iff.mp (hhead rfl) seq rest hseq rfl
    · exact htail seq hseq hheld

theorem Clean.mono {cs ds : List Char} (hclean : Clean ds) (hpart : cs <:+: ds) : Clean cs :=
  fun seq hseq hheld => hclean seq hseq (hheld.trans hpart)

/-- Stripping changes exactly the texts that hold a sequence. -/
theorem strip_eq_self_iff {cs : List Char} : strip cs = cs ↔ Clean cs := by
  fun_induction strip cs with
  | case1 => simp [clean_nil]
  | case2 cs rest hafter _ _ =>
      have hshort : (strip rest).length < (esc :: cs).length :=
        calc (strip rest).length ≤ rest.length := (strip_sublist rest).length_le
          _ < cs.length := length_of_afterSequence? hafter
          _ < (esc :: cs).length := Nat.lt_succ_self _
      rw [clean_cons_iff, hafter]
      constructor
      · intro heq
        exact absurd (congrArg List.length heq) (Nat.ne_of_lt hshort)
      · rintro ⟨hnone, -⟩
        exact absurd (hnone rfl) (by simp)
  | case3 cs hnone ih =>
      rw [List.cons.injEq, clean_cons_iff, ih]
      simp [hnone]
  | case4 c cs hc ih =>
      rw [List.cons.injEq, clean_cons_iff, ih]
      simp [hc]

theorem Sequence.exists_last {seq : List Char} (hseq : Sequence seq) :
    ∃ front last, seq = front ++ [last] ∧ (last.isAlpha ∨ last = bell) := by
  cases hseq with
  | @control parameters letter _ hletter =>
      exact ⟨'[' :: parameters, letter, rfl, .inl hletter⟩
  | @system command _ => exact ⟨']' :: command, bell, rfl, .inr rfl⟩

theorem clean_append_feed_iff {cs : List Char} : Clean (cs ++ ['\n']) ↔ Clean cs := by
  constructor
  · intro hclean
    exact hclean.mono (List.prefix_append cs _).isInfix
  · intro hclean seq hseq hheld
    rcases List.infix_concat_iff.mp hheld with ⟨before, hsuffix⟩ | hheld
    · obtain ⟨front, last, rfl, hlast⟩ := hseq.exists_last
      rw [← List.cons_append, ← List.append_assoc] at hsuffix
      obtain rfl := List.singleton_inj.mp (List.append_inj' hsuffix rfl).2
      exact absurd hlast (by decide)
    · exact hclean seq hseq hheld

/-! ## Sequences put into a text -/

/-- The first text is the second with complete sequences put in. -/
inductive Woven : List Char → List Char → Prop
  | nil : Woven [] []
  | kept (c : Char) {cs ds : List Char} (hrest : Woven cs ds) : Woven (c :: cs) (c :: ds)
  | removed {seq cs ds : List Char} (hseq : Sequence seq) (hrest : Woven cs ds) :
      Woven (esc :: (seq ++ cs)) ds

theorem Woven.append {cs ds more others : List Char} (hfirst : Woven cs ds)
    (hsecond : Woven more others) : Woven (cs ++ more) (ds ++ others) := by
  induction hfirst with
  | nil => exact hsecond
  | kept c _ ih => exact ih.kept c
  | removed hseq _ ih =>
      rw [List.cons_append, List.append_assoc]
      exact ih.removed hseq

/-- Without an escape character of its own, a text comes back when the sequences that
were put in are removed. -/
theorem Woven.strip_append {cs ds : List Char} (hwoven : Woven cs ds) (hds : esc ∉ ds)
    (rest : List Char) : strip (cs ++ rest) = ds ++ strip rest := by
  induction hwoven with
  | nil => rfl
  | kept c _ ih =>
      rw [List.mem_cons, not_or] at hds
      rw [List.cons_append, strip_cons_of_ne (Ne.symm hds.1), ih hds.2, List.cons_append]
  | removed hseq _ ih =>
      rw [List.cons_append, List.append_assoc, strip_sequence hseq, ih hds]

theorem exists_gap_of_strip {c : Char} (hc : c ≠ esc) {cs tail : List Char}
    (hstrip : strip cs = c :: tail) :
    ∃ gap rest, Woven gap [] ∧ cs = gap ++ c :: rest ∧ strip rest = tail := by
  fun_induction strip cs with
  | case1 => simp at hstrip
  | case2 cs after hafter _ ih =>
      obtain ⟨seq, hseq, rfl⟩ := afterSequence?_eq_some_iff.mp hafter
      obtain ⟨gap, rest, hgap, rfl, hrest⟩ := ih hstrip
      exact ⟨esc :: (seq ++ gap), rest, hgap.removed hseq, by simp, hrest⟩
  | case3 cs _ _ => exact absurd (List.cons.inj hstrip).1 (Ne.symm hc)
  | case4 d cs _ _ =>
      obtain ⟨rfl, htail⟩ := List.cons.inj hstrip
      exact ⟨[], cs, .nil, rfl, htail⟩

theorem exists_woven_of_strip {ds : List Char} (hds : esc ∉ ds) {cs tail : List Char}
    (hstrip : strip cs = ds ++ tail) :
    ∃ inner rest, Woven inner ds ∧ cs = inner ++ rest ∧ strip rest = tail := by
  induction ds generalizing cs with
  | nil => exact ⟨[], cs, .nil, rfl, hstrip⟩
  | cons c ds ih =>
      rw [List.mem_cons, not_or] at hds
      obtain ⟨gap, behind, hgap, rfl, hbehind⟩ := exists_gap_of_strip (Ne.symm hds.1) hstrip
      obtain ⟨inner, rest, hinner, rfl, hrest⟩ := ih hds.2 hbehind
      exact ⟨gap ++ c :: inner, rest, hgap.append (hinner.kept c), by simp, hrest⟩

/-- A bell is kept exactly if no system command is open before it. -/
theorem bell_mem_strip_iff {cs : List Char} :
    bell ∈ strip cs ↔ ∃ front rest, cs = front ++ bell :: rest ∧ ¬ LeavesOpen front := by
  constructor
  · intro hbell
    fun_induction strip cs with
    | case1 => simp at hbell
    | case2 cs after hafter _ ih =>
        obtain ⟨seq, hseq, rfl⟩ := afterSequence?_eq_some_iff.mp hafter
        obtain ⟨front, rest, rfl, hfront⟩ := ih hbell
        refine ⟨esc :: (seq ++ front), rest, by simp, ?_⟩
        rwa [leavesOpen_sequence hseq]
    | case3 cs hnone ih =>
        obtain ⟨front, rest, rfl, hfront⟩ := ih (List.mem_of_ne_of_mem (by decide) hbell)
        refine ⟨esc :: front, rest, rfl, fun hopen => ?_⟩
        rcases leavesOpen_cons_iff.mp hopen with ⟨-, command, rfl, -⟩ | hopen
        · exact afterSequence?_system_eq_none_iff.mp hnone (by simp)
        · exact hfront hopen
    | case4 c cs hc ih =>
        by_cases hhead : bell = c
        · exact ⟨[], cs, by rw [hhead]; rfl, not_leavesOpen_nil⟩
        · obtain ⟨front, rest, rfl, hfront⟩ := ih (List.mem_of_ne_of_mem hhead hbell)
          refine ⟨c :: front, rest, rfl, ?_⟩
          rw [leavesOpen_cons_iff]
          simp [hc, hfront]
  · rintro ⟨front, rest, rfl, hfront⟩
    rw [strip_append_cons (by decide) fun hopen => absurd hopen hfront,
      strip_cons_of_ne (by decide)]
    simp

/-! ## Sequences that come up -/

/-- A text that goes on from an escape character as a sequence, as soon as the sequences
in it are removed. In a control sequence these may stand anywhere. A system command ends
with the first bell that is kept. -/
inductive Continues : List Char → Prop
  | control {inner parameters : List Char} {letter : Char}
      (hparameters : ∀ c ∈ parameters, isParameter c) (hletter : letter.isAlpha)
      (hinner : Woven inner ('[' :: (parameters ++ [letter]))) (rest : List Char) :
      Continues (inner ++ rest)
  | system {gap command : List Char} (hgap : Woven gap []) (hcommand : ¬ LeavesOpen command)
      (rest : List Char) : Continues (gap ++ ']' :: (command ++ bell :: rest))

theorem continues_iff {cs : List Char} :
    Continues cs ↔ ∃ seq rest, Sequence seq ∧ strip cs = seq ++ rest := by
  constructor
  · intro hcontinues
    cases hcontinues with
    | @control inner parameters letter hparameters hletter hinner rest =>
        have hesc := not_mem_control hparameters hletter esc (by decide)
        exact ⟨_, _, .control parameters hparameters hletter, hinner.strip_append hesc rest⟩
    | @system gap command hgap hcommand rest =>
        have hbell : bell ∈ strip (command ++ bell :: rest) :=
          bell_mem_strip_iff.mpr ⟨command, rest, rfl, hcommand⟩
        obtain ⟨body, after, hstrip, hbody⟩ := List.eq_append_cons_of_mem hbell
        refine ⟨_, after, .system hbody, ?_⟩
        rw [hgap.strip_append List.not_mem_nil, strip_cons_of_ne (by decide), hstrip]
        simp
  · rintro ⟨seq, rest, hseq, hstrip⟩
    cases hseq with
    | control parameters hparameters hletter =>
        have hesc := not_mem_control hparameters hletter esc (by decide)
        obtain ⟨inner, behind, hinner, rfl, -⟩ := exists_woven_of_strip hesc hstrip
        exact .control hparameters hletter hinner behind
    | @system command hcommand =>
        obtain ⟨gap, behind, hgap, rfl, hbehind⟩ := exists_gap_of_strip (by decide) hstrip
        have hbell : bell ∈ strip behind := by simp [hbehind]
        obtain ⟨front, rest, rfl, hfront⟩ := bell_mem_strip_iff.mp hbell
        exact .system hgap hfront rest

/-- Some escape character that stands outside of all sequences begins no sequence, but
will when the sequences behind it are removed. -/
def Resurfaces (cs : List Char) : Prop :=
  ∃ front rest, cs = front ++ esc :: rest ∧ (LeavesOpen front → bell ∉ rest) ∧
    (∀ seq after, Sequence seq → rest ≠ seq ++ after) ∧ Continues rest

theorem Resurfaces.not_clean {cs : List Char} (hresurfaces : Resurfaces cs) :
    ¬ Clean (strip cs) := by
  obtain ⟨front, rest, rfl, houtside, hnone, hcontinues⟩ := hresurfaces
  obtain ⟨seq, after, hseq, hrest⟩ := continues_iff.mp hcontinues
  have hclosed : LeavesOpen front → bell ∉ esc :: rest := fun hopen =>
    List.not_mem_cons_of_ne_of_not_mem (by decide) (houtside hopen)
  have hstrip : strip (front ++ esc :: rest) = strip front ++ (esc :: seq) ++ after := by
    rw [strip_append_cons (by decide) hclosed, strip_esc (afterSequence?_eq_none_iff.mpr hnone),
      hrest]
    simp
  intro hclean
  exact hclean seq hseq ⟨strip front, after, hstrip.symm⟩

/-- Stripping leaves a sequence behind exactly if one comes up. -/
theorem clean_strip_iff {cs : List Char} : Clean (strip cs) ↔ ¬ Resurfaces cs := by
  refine ⟨fun hclean hresurfaces => hresurfaces.not_clean hclean, fun hcalm => ?_⟩
  fun_induction strip cs with
  | case1 => exact clean_nil
  | case2 cs after hafter _ ih =>
      obtain ⟨seq, hseq, rfl⟩ := afterSequence?_eq_some_iff.mp hafter
      apply ih
      rintro ⟨front, rest, rfl, houtside, hrest⟩
      refine hcalm ⟨esc :: (seq ++ front), rest, by simp, ?_, hrest⟩
      rwa [leavesOpen_sequence hseq]
  | case3 cs hnone ih =>
      refine clean_cons_iff.mpr ⟨fun _ => ?_, ih ?_⟩
      · -- Here the escape character itself begins nothing.
        rw [afterSequence?_eq_none_iff]
        intro seq rest hseq hstrip
        exact hcalm ⟨[], cs, rfl, fun hopen => absurd hopen not_leavesOpen_nil,
          afterSequence?_eq_none_iff.mp hnone, continues_iff.mpr ⟨seq, rest, hseq, hstrip⟩⟩
      · rintro ⟨front, rest, rfl, houtside, hrest⟩
        refine hcalm ⟨esc :: front, rest, rfl, fun hopen => ?_, hrest⟩
        rcases leavesOpen_cons_iff.mp hopen with ⟨-, command, rfl, -⟩ | hopen
        · have hbell : bell ∉ command ++ esc :: rest := afterSequence?_system_eq_none_iff.mp hnone
          exact fun hmem => hbell (by simp [hmem])
        · exact houtside hopen
  | case4 c cs hc ih =>
      refine clean_cons_iff.mpr ⟨fun heq => absurd heq hc, ih ?_⟩
      rintro ⟨front, rest, rfl, houtside, hrest⟩
      refine hcalm ⟨c :: front, rest, rfl, fun hopen => ?_, hrest⟩
      rcases leavesOpen_cons_iff.mp hopen with ⟨heq, -⟩ | hopen
      · exact absurd heq hc
      · exact houtside hopen

/-! ## Logged lines and payloads -/

/-- What is recovered from a journal stands in the stripped text. -/
theorem payload_infix_strip {host marker journal : String} {line : Journal.Line}
    (hline : line ∈ Journal.linesOf host marker journal) :
    line.payload.toList <:+: strip journal.toList := by
  rw [Journal.linesOf, List.mem_filterMap] at hline
  obtain ⟨chars, hchars, hread⟩ := hline
  obtain ⟨payload, hpayload, htext⟩ := Journal.readLine?_eq_some_iff.mp hread
  have hwhole := congrArg String.toList htext
  rw [String.toList_ofList, String.toList_append] at hwhole
  have hsuffix : line.payload.toList <:+ chars := by
    rw [hwhole, ← hpayload]
    cases payload with
    | none => exact List.nil_suffix
    | some payload =>
        rw [Journal.encode, String.toList_append, ← List.append_assoc]
        exact List.suffix_append _ _
  exact hsuffix.isInfix.trans (Text.infix_of_mem_lines hchars)

theorem toList_stripText (text : String) : (stripText text).toList = strip text.toList :=
  String.toList_ofList

theorem stripText_eq_self_iff {text : String} : stripText text = text ↔ Clean text.toList := by
  rw [← String.toList_inj, toList_stripText, strip_eq_self_iff]

/-- Stripping a text leaves no sequence in it exactly if stripping it again changes
nothing, and exactly if no sequence comes up in the text. For such texts, and only for
them, the logged line is clean too, and every payload that is recovered from such a
journal is. -/
theorem stripText_clean (text : String) :
    (Clean (stripText text).toList ↔ stripText (stripText text) = stripText text) ∧
    (Clean (stripText text).toList ↔ ¬ Resurfaces text.toList) ∧
    (Clean (RunLog.textLine text).toList ↔ ¬ Resurfaces text.toList) ∧
    (¬ Resurfaces text.toList → ∀ host marker, ∀ line ∈ Journal.linesOf host marker text,
      Clean line.payload.toList) := by
  have hclean : Clean (stripText text).toList ↔ ¬ Resurfaces text.toList := by
    rw [toList_stripText, clean_strip_iff]
  refine ⟨stripText_eq_self_iff.symm, hclean, ?_, fun hcalm host marker line hline => ?_⟩
  · have hline : (RunLog.textLine text).toList = (stripText text).toList ++ ['\n'] := by
      rw [RunLog.textLine, String.toList_append]
      rfl
    rw [hline, clean_append_feed_iff, hclean]
  · rw [← hclean, toList_stripText] at hcalm
    exact hcalm.mono (payload_infix_strip hline)

/-- A colored payload in which nothing comes up. -/
theorem stripText_clean_colored :
    ¬ Resurfaces "js: m RESULT \x1b[1ma\x1b[0m".toList ∧
    ∃ line ∈ Journal.linesOf Journal.hostPrefix "m" "js: m RESULT \x1b[1ma\x1b[0m",
      line.payload = "a" ∧ Clean line.payload.toList := by
  obtain ⟨hagain, hcalm, -, hpayload⟩ := stripText_clean "js: m RESULT \x1b[1ma\x1b[0m"
  have hnone := hcalm.mp (hagain.mpr (by decide +kernel))
  have hline : ⟨.result, "a"⟩ ∈
      Journal.linesOf Journal.hostPrefix "m" "js: m RESULT \x1b[1ma\x1b[0m" := by
    decide +kernel
  exact ⟨hnone, _, hline, rfl, hpayload hnone _ _ _ hline⟩

/-- One sequence inside of another: the outer one is left behind in the text, and in a
payload. -/
theorem stripText_nested :
    stripText "\x1b\x1b[m[m" = "\x1b[m" ∧ ¬ Clean (stripText "\x1b\x1b[m[m").toList ∧
    stripText (stripText "\x1b\x1b[m[m") = "" ∧
    (Journal.demultiplex "js: m RESULT \x1b\x1b[m[m" "m").results = ["\x1b[m"] := by
  have hstrip : stripText "\x1b\x1b[m[m" = "\x1b[m" := by decide +kernel
  have hagain : stripText "\x1b[m" = "" := by decide +kernel
  refine ⟨hstrip, ?_, by rw [hstrip, hagain], by decide +kernel⟩
  rw [hstrip, ← stripText_eq_self_iff, hagain]
  decide

end WindowScript.Terminal
