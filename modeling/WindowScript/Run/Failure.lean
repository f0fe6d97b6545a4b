/-
# Failures of a run

Everything that can end a run early, each with the words the user reads. A
transport failure is about a helper program or the compositor behind it, and also
tells which command failed and what it wrote.
-/

import WindowScript.Command.Basic
import WindowScript.Helper.Reply
import WindowScript.Number.Decimal
import WindowScript.Text.Shown

namespace WindowScript

/-- What went wrong between the tool and the compositor. A host of another kind
reports its own words. -/
inductive Transport
  | callFailed (method command : String) (result : Helper.Result)
  | unexpectedReply (method reply : String)
  | refused (method path reply : String)
  | journalFailed (command : String) (result : Helper.Result)
  | reported (message command output : String)
  deriving DecidableEq, Repr

namespace Transport

/-- How a failed program ended and what it said. -/
def exitText (result : Helper.Result) : String :=
  " failed (exit " ++ Number.decimal result.exitCode ++ "): " ++ result.detail

/-- What the user reads about a transport failure. -/
def message : Transport → String
  | .callFailed method _ result => "D-Bus call " ++ method ++ exitText result
  | .unexpectedReply _ reply => "Unexpected reply from loadScript: " ++ Text.trim reply
  | .refused _ path _ => "KWin refused to load script: " ++ path
  | .journalFailed _ result => "journalctl" ++ exitText result
  | .reported message _ _ => message

/-- The command that failed. -/
def command : Transport → String
  | .callFailed _ command _ => command
  | .unexpectedReply method _ => method
  | .refused method _ _ => method
  | .journalFailed command _ => command
  | .reported _ command _ => command

/-- What the command wrote. -/
def output : Transport → String
  | .callFailed _ _ result => result.stderr
  | .unexpectedReply _ reply => reply
  | .refused _ _ reply => reply
  | .journalFailed _ result => result.stderr
  | .reported _ _ output => output

end Transport

/-- Why a run ended early. -/
inductive Failure
  | command (error : Command.Error)
  | transport (error : Transport)
  | missingProgram (file : String)
  | noInstant
  | noParent (template : String)
  | removedFile (path : String)
  | nullByte (path : String)
  | noPath (path : String)
  | notDirectory (path : String)
  | existingFile (path : String)
  | nameTooLong (path : String)
  | unopened (path : String)
  | openedDirectory (path : String)
  | reported (message : String)
  deriving DecidableEq, Repr

/-- What the user reads about a failure. -/
def Failure.message : Failure → String
  | .command error => error.message
  | .transport error => error.message
  | .missingProgram file => "spawn " ++ file ++ " ENOENT"
  | .noInstant => "Invalid time value"
  | .noParent template => "ENOENT: no such file or directory, mkdtemp '" ++ template ++ "'"
  | .removedFile path => "ENOENT: no such file or directory, open '" ++ path ++ "'"
  | .nullByte path =>
      "The argument 'path' must be a string, Uint8Array, or URL without null bytes. Received " ++
        Text.shown path
  | .noPath path => "ENOENT: no such file or directory, mkdir '" ++ path ++ "'"
  | .notDirectory path => "ENOTDIR: not a directory, mkdir '" ++ path ++ "'"
  | .existingFile path => "EEXIST: file already exists, mkdir '" ++ path ++ "'"
  | .nameTooLong path => "ENAMETOOLONG: name too long, mkdir '" ++ path ++ "'"
  | .unopened path => "ENAMETOOLONG: name too long, open '" ++ path ++ "'"
  | .openedDirectory path => "EISDIR: illegal operation on a directory, open '" ++ path ++ "'"
  | .reported message => message

end WindowScript
