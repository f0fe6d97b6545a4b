/-
# Cutting a text at a line feed

Everything about lines follows from one equation: a text that is cut at one of
its line feeds has the lines of both sides. The side before the feed loses the
carriage return of each of its lines, the side after it is a text like any
other.
-/

import WindowScript.Text.Lines

namespace WindowScript.Text

/-- A character that is no line feed goes to the front of the first part. -/
theorem splitAtFeeds_cons_of_ne {c : Char} (hc : c ≠ '\n') (cs : List Char) :
    ∃ part rest, splitAtFeeds cs = part :: rest ∧
      splitAtFeeds (c :: cs) = (c :: part) :: rest := by
  obtain ⟨part, rest, hparts⟩ := List.exists_cons_of_ne_nil (splitAtFeeds_ne_nil cs)
  refine ⟨part, rest, hparts, ?_⟩
  rw [splitAtFeeds] at hparts ⊢
  rw [List.foldr_cons, if_neg hc, hparts]

/-- Parts do not reach across a line feed. -/
theorem splitAtFeeds_append_feed (cs ds : List Char) :
    splitAtFeeds (cs ++ '\n' :: ds) = splitAtFeeds cs ++ splitAtFeeds ds := by
  induction cs with
  | nil => simp
  | cons c cs ih =>
      by_cases hc : c = '\n'
      · subst hc
        simp [ih]
      · obtain ⟨part, rest, hparts, hcons⟩ := splitAtFeeds_cons_of_ne hc cs
        obtain ⟨part', rest', hparts', hcons'⟩ :=
          splitAtFeeds_cons_of_ne hc (cs ++ '\n' :: ds)
        rw [ih, hparts, List.cons_append, List.cons.injEq] at hparts'
        rw [List.cons_append, hcons', hcons, ← hparts'.1, ← hparts'.2, List.cons_append]

theorem splitAtFeeds_of_not_mem {cs : List Char} (hcs : '\n' ∉ cs) :
    splitAtFeeds cs = [cs] := by
  induction cs with
  | nil => rfl
  | cons c cs ih =>
      rw [List.mem_cons, not_or] at hcs
      obtain ⟨part, rest, hparts, hcons⟩ := splitAtFeeds_cons_of_ne (Ne.symm hcs.1) cs
      rw [ih hcs.2, List.cons.injEq] at hparts
      rw [hcons, ← hparts.1, ← hparts.2]

/-- The carriage return of the last part stays only where nothing follows. -/
theorem dropReturns_append {parts more : List (List Char)} (hmore : more ≠ []) :
    dropReturns (parts ++ more) = parts.map dropReturn ++ dropReturns more := by
  induction parts with
  | nil => rfl
  | cons part parts ih =>
      obtain ⟨next, rest, hnext⟩ : ∃ next rest, parts ++ more = next :: rest :=
        List.exists_cons_of_ne_nil (List.append_ne_nil_of_right_ne_nil parts hmore)
      rw [List.cons_append, hnext, dropReturns, ← hnext, ih, List.map_cons, List.cons_append]

/-- The lines of a text on both sides of a line feed. -/
theorem lines_append_feed (cs ds : List Char) :
    lines (cs ++ '\n' :: ds) = (splitAtFeeds cs).map dropReturn ++ lines ds := by
  rw [lines, splitAtFeeds_append_feed, dropReturns_append (splitAtFeeds_ne_nil ds)]
  rfl

/-- The first line of a text, with everything after it. -/
theorem lines_cons_feed {line : List Char} (hline : '\n' ∉ line) (cs : List Char) :
    lines (line ++ '\n' :: cs) = dropReturn line :: lines cs := by
  rw [lines_append_feed, splitAtFeeds_of_not_mem hline]
  rfl

/-- A text without a line feed is its own only line. -/
theorem lines_of_not_mem {line : List Char} (hline : '\n' ∉ line) : lines line = [line] := by
  rw [lines, splitAtFeeds_of_not_mem hline]
  rfl

@[simp]
theorem dropReturn_append_return (line : List Char) : dropReturn (line ++ ['\r']) = line := by
  simp [dropReturn]

theorem dropReturn_of_getLast?_ne {line : List Char} (hline : line.getLast? ≠ some '\r') :
    dropReturn line = line :=
  if_neg hline

/-- A line without its carriage return is a start of the line. -/
theorem dropReturn_isPrefix (line : List Char) : dropReturn line <+: line := by
  unfold dropReturn
  split
  · exact List.dropLast_prefix line
  · exact List.prefix_rfl

/-- A line stands in its text. -/
theorem infix_of_mem_lines {line cs : List Char} (hline : line ∈ lines cs) : line <:+: cs := by
  by_cases hfeed : '\n' ∈ cs
  · obtain ⟨front, rest, rfl, hfront⟩ := List.eq_append_cons_of_mem hfeed
    rw [lines_cons_feed hfront, List.mem_cons] at hline
    rcases hline with rfl | hline
    · exact ((dropReturn_isPrefix front).trans (List.prefix_append _ _)).isInfix
    · have hrest : rest <:+ front ++ '\n' :: rest := ⟨front ++ ['\n'], by simp⟩
      exact (infix_of_mem_lines hline).trans hrest.isInfix
  · rw [lines_of_not_mem hfeed, List.mem_singleton] at hline
    exact hline ▸ List.infix_rfl
termination_by cs.length

end WindowScript.Text
