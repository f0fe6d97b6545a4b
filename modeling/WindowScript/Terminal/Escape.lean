/-
# Terminal escape sequences

Two kinds of sequences are removed from text before it is logged or decoded: a
control sequence, which is an escape character, an opening bracket, parameters
and one letter, and a system command, which is an escape character, a closing
bracket and everything up to the next bell. An escape character that starts
neither is left alone.
-/

namespace WindowScript.Terminal

/-- The escape character. -/
def esc : Char := '\x1b'

/-- The bell that ends a system command. -/
def bell : Char := '\x07'

/-- Parameter characters of a control sequence. -/
def isParameter (c : Char) : Bool := c.isDigit || c = ';' || c = '?'

/-- What follows a complete sequence, read after its escape character. -/
def afterSequence? : List Char → Option (List Char)
  | '[' :: rest =>
      match rest.dropWhile isParameter with
      | c :: after => if c.isAlpha then some after else none
      | [] => none
  | ']' :: rest =>
      match rest.dropWhile (· ≠ bell) with
      | _ :: after => some after
      | [] => none
  | _ => none

/-- A sequence is longer than nothing. -/
theorem length_of_afterSequence? {cs rest : List Char}
    (hseq : afterSequence? cs = some rest) : rest.length < cs.length := by
  unfold afterSequence? at hseq
  split at hseq
  next tail =>
      have hdrop := (List.dropWhile_suffix (l := tail) isParameter).length_le
      split at hseq
      next c after hafter =>
          rw [hafter] at hdrop
          simp only [List.length_cons] at hdrop
          split at hseq
          · simp only [Option.some.injEq] at hseq
            rw [← hseq, List.length_cons]
            omega
          · simp at hseq
      next => simp at hseq
  next tail =>
      have hdrop := (List.dropWhile_suffix (l := tail) (· ≠ bell)).length_le
      split at hseq
      next c after hafter =>
          rw [hafter] at hdrop
          simp only [List.length_cons] at hdrop
          simp only [Option.some.injEq] at hseq
          rw [← hseq, List.length_cons]
          omega
      next => simp at hseq
  next => simp at hseq

/-- Remove every complete sequence, from left to right. -/
def strip : List Char → List Char
  | [] => []
  | c :: cs =>
      if c = esc then
        match hseq : afterSequence? cs with
        | some rest =>
            have := length_of_afterSequence? hseq
            strip rest
        | none => c :: strip cs
      else c :: strip cs
termination_by cs => cs.length
decreasing_by
  · exact Nat.lt_succ_of_lt this
  · simp
  · simp

/-- Remove every complete sequence from a text. -/
def stripText (s : String) : String := String.ofList (strip s.toList)

end WindowScript.Terminal
