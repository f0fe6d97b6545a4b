/-
# Command lines are read back

A command line in the run log can be given to a shell. How a shell cuts it into words is
said on its own: single quotes protect everything up to the next one, blanks that are not
protected separate words, and what stands together is one word, even if it is empty
between quotes. A word without a single quote is written in a way that is read as that
word, whatever it holds, and only characters without a meaning for the shell are left
unprotected. So different words give different command lines.
-/

import WindowScript.Helper.Launch

namespace WindowScript.Helper

/-! ## How a shell reads -/

namespace Shell

/-- A piece of a command line: a blank between words, a character on its own, or what
stands between two quotes. -/
inductive Fragment
  | blank
  | bare (c : Char)
  | quoted (body : List Char)
  deriving DecidableEq, Repr

/-- The blanks that separate words. -/
def isBlank (c : Char) : Bool := c = ' ' || c = '\t'

/-- What a character is if no quotes are around it. -/
def Fragment.ofChar (c : Char) : Fragment := if isBlank c then .blank else .bare c

/-- What a fragment adds to its word. -/
def Fragment.chars : Fragment → List Char
  | .blank => []
  | .bare c => [c]
  | .quoted body => body

/-- Cut a command line into fragments, outside of quotes or with what was read since the
last opening quote. A quote has to be closed. -/
def scan : Option (List Char) → List Char → Option (List Fragment)
  | none, [] => some []
  | none, c :: cs =>
      if c = '\'' then scan (some []) cs
      else (scan none cs).map (Fragment.ofChar c :: ·)
  | some _, [] => none
  | some body, c :: cs =>
      if c = '\'' then (scan none cs).map (.quoted body :: ·)
      else scan (some (body ++ [c])) cs

/-- The words that fragments make up. -/
def words (fragments : List Fragment) : List String :=
  ((fragments.splitOn .blank).filter (· ≠ [])).map fun word =>
    String.ofList (word.flatMap Fragment.chars)

/-! ## Fragments of quoted and bare text -/

theorem scan_quoted {body : List Char} (hbody : '\'' ∉ body) (start rest : List Char) :
    scan (some start) (body ++ '\'' :: rest) =
      (scan none rest).map (.quoted (start ++ body) :: ·) := by
  induction body generalizing start with
  | nil => simp [scan]
  | cons c body ih =>
      rw [List.mem_cons, not_or] at hbody
      rw [List.cons_append, scan, if_neg (Ne.symm hbody.1), ih hbody.2, List.append_assoc]
      rfl

theorem scan_bare {cs : List Char} (hcs : ∀ c ∈ cs, c ≠ '\'' ∧ isBlank c = false)
    (rest : List Char) :
    scan none (cs ++ rest) = (scan none rest).map (cs.map .bare ++ ·) := by
  induction cs with
  | nil => simp
  | cons c cs ih =>
      obtain ⟨⟨hquote, hblank⟩, hcs⟩ := List.forall_mem_cons.mp hcs
      rw [List.cons_append, scan, if_neg hquote, ih hcs, Option.map_map, Fragment.ofChar, hblank]
      rfl

theorem scan_space (rest : List Char) :
    scan none (' ' :: rest) = (scan none rest).map (.blank :: ·) := rfl

theorem flatMap_chars_bare (cs : List Char) :
    (cs.map Fragment.bare).flatMap Fragment.chars = cs := by
  simp [List.flatMap_map, Fragment.chars]

end Shell

open Shell

/-! ## Fragments of a command line -/

/-- How a shell sees a word of a command line. -/
def wordFragments (word : String) : List Fragment :=
  if word ≠ "" ∧ word.toList.all isPlain then word.toList.map .bare else [.quoted word.toList]

theorem isPlain_cases {c : Char} (hc : isPlain c = true) :
    (c.isAlphanum ∨ c ∈ "_@%+=:,./-".toList) ∧ c ≠ '\'' ∧ isBlank c = false := by
  have hset : c.isAlphanum ∨ c ∈ "_@%+=:,./-".toList := by
    simpa [isPlain] using hc
  refine ⟨hset, ?_, ?_⟩
  · rintro rfl
    exact absurd hc (by decide)
  · rw [Bool.eq_false_iff]
    intro hblank
    simp only [isBlank, Bool.or_eq_true, decide_eq_true_eq] at hblank
    rcases hblank with rfl | rfl <;> exact absurd hc (by decide)

theorem scan_quoteWord {word : String} (hword : '\'' ∉ word.toList) (rest : List Char) :
    scan none ((quoteWord word).toList ++ rest) =
      (scan none rest).map (wordFragments word ++ ·) := by
  unfold quoteWord wordFragments
  split
  next hplain =>
      apply scan_bare
      intro c hc
      exact (isPlain_cases (List.all_eq_true.mp hplain.2 c hc)).2
  next =>
      have htext : ("'" ++ word ++ "'").toList ++ rest =
          '\'' :: (word.toList ++ '\'' :: rest) := by simp
      rw [htext, scan, if_pos rfl, scan_quoted hword]
      rfl

/-- A command line is read as its words with blanks between them. -/
theorem scan_commandLine {words : List String} (hwords : ∀ word ∈ words, '\'' ∉ word.toList) :
    scan none (commandLine words).toList =
      some ([Fragment.blank].intercalate (words.map wordFragments)) := by
  rw [commandLine, String.toList_intercalate, List.map_map]
  induction words with
  | nil => rfl
  | cons word words ih =>
      obtain ⟨hword, hwords⟩ := List.forall_mem_cons.mp hwords
      cases words with
      | nil =>
          have hscan := scan_quoteWord hword []
          simpa [scan] using hscan
      | cons next words =>
          have hrest := ih hwords
          simp only [List.map_cons, List.intercalate_cons_cons, List.append_assoc,
            Function.comp_apply] at hrest ⊢
          have hspace : " ".toList = [' '] := rfl
          rw [scan_quoteWord hword, hspace, List.singleton_append, scan_space, ← hspace, hrest]
          rfl

theorem wordFragments_ne_nil (word : String) : wordFragments word ≠ [] := by
  unfold wordFragments
  split
  next hplain => simpa using hplain.1
  next => simp

theorem blank_not_mem_wordFragments (word : String) : Fragment.blank ∉ wordFragments word := by
  unfold wordFragments
  split <;> simp

theorem ofList_wordFragments (word : String) :
    String.ofList ((wordFragments word).flatMap Fragment.chars) = word := by
  unfold wordFragments
  split
  · rw [flatMap_chars_bare, String.ofList_toList]
  · simp [Fragment.chars]

/-- Words with blanks between them are cut into these words. -/
theorem words_intercalate {words : List String} (hne : words ≠ []) :
    Shell.words ([Fragment.blank].intercalate (words.map wordFragments)) = words := by
  have hblank : ∀ fragments ∈ words.map wordFragments, Fragment.blank ∉ fragments := by
    simpa using fun word _ => blank_not_mem_wordFragments word
  have hkept : (words.map wordFragments).filter (· ≠ []) = words.map wordFragments := by
    simpa using fun word _ => wordFragments_ne_nil word
  rw [Shell.words, List.splitOn_intercalate _ hblank (by simpa using hne), hkept, List.map_map]
  simp [Function.comp_def, ofList_wordFragments]

/-- What is left without quotes is plain. -/
theorem isPlain_of_bare_mem {words : List String} {c : Char}
    (hc : .bare c ∈ [Fragment.blank].intercalate (words.map wordFragments)) : isPlain c = true := by
  have hword : ∀ word, .bare c ∈ wordFragments word → isPlain c = true := by
    intro word hmem
    unfold wordFragments at hmem
    split at hmem
    next hplain =>
        obtain ⟨found, hfound, heq⟩ := List.mem_map.mp hmem
        rw [Fragment.bare.injEq] at heq
        exact List.all_eq_true.mp hplain.2 c (heq ▸ hfound)
    next => simp at hmem
  induction words with
  | nil => simp at hc
  | cons word words ih =>
      cases words with
      | nil => exact hword word (by simpa using hc)
      | cons next words =>
          rw [List.map_cons, List.map_cons, List.intercalate_cons_cons, List.mem_append,
            List.mem_append, ← List.map_cons] at hc
          rcases hc with (hfirst | hblank) | hrest
          · exact hword word hfirst
          · simp at hblank
          · exact ih hrest

/-- A shell reads the command line of a launch as its program and its arguments, as long
as none of them holds a single quote. Everything that it finds without quotes is a letter,
a digit or one of a few other characters that mean only themselves. So launches with the
same command line start the same program with the same arguments. -/
theorem Launch.text_read_back (launch : Launch)
    (hwords : ∀ word ∈ launch.words, '\'' ∉ word.toList) :
    (∃ fragments, scan none launch.text.toList = some fragments ∧
      Shell.words fragments = launch.file :: launch.args ∧
      ∀ c, .bare c ∈ fragments → c.isAlphanum ∨ c ∈ "_@%+=:,./-".toList) ∧
    ∀ other : Launch, (∀ word ∈ other.words, '\'' ∉ word.toList) → launch.text = other.text →
      launch.file = other.file ∧ launch.args = other.args := by
  have hread (found : Launch) : Shell.words
      ([Fragment.blank].intercalate (found.words.map wordFragments)) = found.words :=
    words_intercalate (List.cons_ne_nil _ _)
  constructor
  · refine ⟨_, scan_commandLine hwords, hread launch, fun c hc => ?_⟩
    exact (isPlain_cases (isPlain_of_bare_mem hc)).1
  · intro other hother htext
    have hscan := scan_commandLine hwords
    rw [show commandLine launch.words = commandLine other.words from htext, scan_commandLine hother,
      Option.some.injEq] at hscan
    have heq : launch.words = other.words := by rw [← hread launch, ← hscan, hread other]
    exact List.cons.inj heq

/-- A launch with empty words, blanks, quotes and line feeds among its arguments. -/
def spelledOut : Launch :=
  { file := "printf", args := ["", " ", "%s\n", "$(\"\\", "--since=1", "a b"] }

theorem Launch.text_read_back_spelledOut :
    spelledOut.text = "printf '' ' ' '%s\n' '$(\"\\' --since=1 'a b'" ∧
    (∀ word ∈ spelledOut.words, '\'' ∉ word.toList) ∧
    (scan none spelledOut.text.toList).map Shell.words =
      some ["printf", "", " ", "%s\n", "$(\"\\", "--since=1", "a b"] ∧
    spelledOut.text ≠ Launch.text
      { spelledOut with args := ["", " ", "%s\n", "$(\"\\", "--since=1", "a", "b"] } := by
  have hquote : ∀ word ∈ spelledOut.words, '\'' ∉ word.toList := by decide
  obtain ⟨⟨fragments, hscan, hwords, -⟩, hdiffer⟩ := spelledOut.text_read_back hquote
  refine ⟨by decide +kernel, hquote, ?_, fun htext => ?_⟩
  · rw [hscan, Option.map_some, hwords]
    rfl
  · obtain ⟨-, hargs⟩ := hdiffer _ (by decide) htext
    exact absurd hargs (by decide)

end WindowScript.Helper
