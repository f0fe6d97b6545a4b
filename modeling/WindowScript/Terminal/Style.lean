/-
# Colours

The control sequences that colour diagnostics on a terminal.
-/

namespace WindowScript.Terminal

/-- A colour or weight of text. -/
inductive Style
  | reset
  | dim
  | bold
  | cyan
  | yellow
  | green
  | red
  | magenta
  deriving DecidableEq, Repr

namespace Style

/-- The control sequence that switches to a style. -/
def code : Style → String
  | .reset => "\x1b[0m"
  | .dim => "\x1b[2m"
  | .bold => "\x1b[1m"
  | .cyan => "\x1b[36m"
  | .yellow => "\x1b[33m"
  | .green => "\x1b[32m"
  | .red => "\x1b[31m"
  | .magenta => "\x1b[35m"

/-- The name of a style. -/
def name : Style → String
  | .reset => "reset"
  | .dim => "dim"
  | .bold => "bold"
  | .cyan => "cyan"
  | .yellow => "yellow"
  | .green => "green"
  | .red => "red"
  | .magenta => "magenta"

/-- Every style. -/
def all : List Style :=
  [.reset, .dim, .bold, .cyan, .yellow, .green, .red, .magenta]

/-- A text in a style, and back to plain text after it. -/
def apply (style : Style) (text : String) : String := style.code ++ text ++ Style.reset.code

end Style

end WindowScript.Terminal
