/-
# Helper programs

The tool works through two helper programs. A launch says which program is
started, with which arguments, environment and directory. For logs and error
messages a launch is written as a command line, in which everything but plain
words is put between single quotes.
-/

namespace WindowScript.Helper

/-- Variables and their values. -/
abbrev Environment := List (String × String)

namespace Environment

/-- The value of a variable. -/
def get? (environment : Environment) (name : String) : Option String :=
  environment.lookup name

/-- Set a variable, or remove it. -/
def set (environment : Environment) (name : String) (value : Option String) : Environment :=
  let others := environment.filter fun entry => entry.1 ≠ name
  match value with
  | some value => (name, value) :: others
  | none => others

/-- Change several variables, one after the other. -/
def change (environment : Environment) (changes : List (String × Option String)) :
    Environment :=
  changes.foldl (fun found entry => found.set entry.1 entry.2) environment

end Environment

/-- A program to be started. Without a directory it is started in the current
one. -/
structure Launch where
  file : String
  args : List String
  changes : List (String × Option String) := []
  directory : Option String := none
  deriving DecidableEq, Repr

/-- The program and its arguments. -/
def Launch.words (launch : Launch) : List String := launch.file :: launch.args

/-- Characters that need no quotes on a command line. -/
def isPlain (c : Char) : Bool :=
  c.isAlphanum || c ∈ ['_', '@', '%', '+', '=', ':', ',', '.', '/', '-']

/-- A word of a command line, in quotes unless it is plain. -/
def quoteWord (word : String) : String :=
  if word ≠ "" ∧ word.toList.all isPlain then word else "'" ++ word ++ "'"

/-- A command line of words. -/
def commandLine (words : List String) : String :=
  String.intercalate " " (words.map quoteWord)

/-- The command line of a launch. -/
def Launch.text (launch : Launch) : String := commandLine launch.words

end WindowScript.Helper
