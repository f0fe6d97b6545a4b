/-
# Lines of a text

A line ends with a line feed, or with a carriage return and a line feed. What
stands after the last line feed is a line too, possibly empty, and keeps a
carriage return at its end.
-/

namespace WindowScript.Text

/-- Cut at every line feed. There is one part more than there are line feeds. -/
def splitAtFeeds (cs : List Char) : List (List Char) :=
  cs.foldr
    (fun c parts =>
      if c = '\n' then [] :: parts
      else match parts with
        | [] => [[c]]
        | part :: rest => (c :: part) :: rest)
    [[]]

/-- Drop one carriage return at the end of a line, if there is one. -/
def dropReturn (line : List Char) : List Char :=
  if line.getLast? = some '\r' then line.dropLast else line

/-- Drop the carriage return of every part that a line feed ended, which is
every part but the last. -/
def dropReturns : List (List Char) → List (List Char)
  | [] => []
  | [last] => [last]
  | part :: next :: rest => dropReturn part :: dropReturns (next :: rest)

/-- The lines of a text, without their ends. -/
def lines (cs : List Char) : List (List Char) :=
  dropReturns (splitAtFeeds cs)

@[simp]
theorem splitAtFeeds_nil : splitAtFeeds [] = [[]] := rfl

@[simp]
theorem splitAtFeeds_feed (cs : List Char) :
    splitAtFeeds ('\n' :: cs) = [] :: splitAtFeeds cs := by
  simp [splitAtFeeds]

theorem splitAtFeeds_ne_nil (cs : List Char) : splitAtFeeds cs ≠ [] := by
  cases cs with
  | nil => simp
  | cons c cs =>
      rw [splitAtFeeds, List.foldr_cons]
      split
      · simp
      · split <;> simp

end WindowScript.Text
