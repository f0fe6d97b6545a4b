/-
# Replies of helper programs

A program writes bytes to its two output streams and then exits with a code or is
killed by a signal. What it wrote is collected as text, and death by a signal
counts as exit code 1.
-/

import WindowScript.Text.Blank
import WindowScript.Text.Utf8

namespace WindowScript.Helper

/-- How a program ended. -/
inductive Ending
  | exit (code : UInt8)
  | signal
  deriving DecidableEq, Repr

/-- What a program does once it is started. -/
structure Reply where
  stdout : List UInt8 := []
  stderr : List UInt8 := []
  ending : Ending := .exit 0
  deriving DecidableEq, Repr

/-- What is collected from a program. -/
structure Result where
  exitCode : Nat
  stdout : String
  stderr : String
  deriving DecidableEq, Repr

/-- The exit code that an ending counts as. -/
def Ending.code : Ending → Nat
  | .exit code => code.toNat
  | .signal => 1

/-- Collect a reply. -/
def Reply.result (reply : Reply) : Result where
  exitCode := reply.ending.code
  stdout := String.ofList (Text.Utf8.decode reply.stdout)
  stderr := String.ofList (Text.Utf8.decode reply.stderr)

/-- What a failing program said: its error output, or else its output, without
the blanks around it. -/
def Result.detail (result : Result) : String :=
  if Text.trim result.stderr ≠ "" then Text.trim result.stderr else Text.trim result.stdout

end WindowScript.Helper
