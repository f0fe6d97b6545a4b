import WindowScript.Calendar.Date
import WindowScript.Calendar.Instant
import WindowScript.Command.Action
import WindowScript.Command.Basic
import WindowScript.Command.Reader
import WindowScript.Command.Selector
import WindowScript.Compositor.Client
import WindowScript.Compositor.ScriptId
import WindowScript.Directory
import WindowScript.Helper.Launch
import WindowScript.Helper.Reply
import WindowScript.Journal.Line
import WindowScript.Journal.Output
import WindowScript.Journal.Reader
import WindowScript.Json.Printer
import WindowScript.Json.Reader
import WindowScript.Json.Value
import WindowScript.Main
import WindowScript.Number.Basic
import WindowScript.Number.Decimal
import WindowScript.Number.Duration
import WindowScript.Number.Text
import WindowScript.Options
import WindowScript.Path
import WindowScript.Pattern.Check
import WindowScript.Pattern.Class
import WindowScript.Pattern.Fault
import WindowScript.Pattern.Name
import WindowScript.Pattern.Piece
import WindowScript.Program
import WindowScript.Proofs.Calendar.Gregorian
import WindowScript.Proofs.Calendar.Iso
import WindowScript.Proofs.Command.Composition
import WindowScript.Proofs.Command.Grammar
import WindowScript.Proofs.Command.Progress
import WindowScript.Proofs.Command.Refusal
import WindowScript.Proofs.Command.Selection
import WindowScript.Proofs.Compositor.Loading
import WindowScript.Proofs.Directory.Places
import WindowScript.Proofs.Helper.CommandLine
import WindowScript.Proofs.Helper.Requests
import WindowScript.Proofs.Journal.Bytes
import WindowScript.Proofs.Journal.Insertion
import WindowScript.Proofs.Journal.Marker
import WindowScript.Proofs.Journal.Separation
import WindowScript.Proofs.Journal.Since
import WindowScript.Proofs.Json.Members
import WindowScript.Proofs.Json.OneLine
import WindowScript.Proofs.Json.Reading
import WindowScript.Proofs.Number.Numeral
import WindowScript.Proofs.Number.Rounding
import WindowScript.Proofs.Options.Leading
import WindowScript.Proofs.Path.Normal
import WindowScript.Proofs.Program.Status
import WindowScript.Proofs.Program.Trust
import WindowScript.Proofs.Run.Execution
import WindowScript.Proofs.Run.Lifecycle
import WindowScript.Proofs.Run.Routing
import WindowScript.Proofs.RunLog.Appending
import WindowScript.Proofs.RunLog.Events
import WindowScript.Proofs.RunLog.Naming
import WindowScript.Proofs.Script.Decodability
import WindowScript.Proofs.Script.Flags
import WindowScript.Proofs.Script.Heads
import WindowScript.Proofs.Script.Injection
import WindowScript.Proofs.Script.Literal
import WindowScript.Proofs.Script.Quiet
import WindowScript.Proofs.Script.Scanner
import WindowScript.Proofs.Script.Staging
import WindowScript.Proofs.ScriptFile.Isolation
import WindowScript.Proofs.Terminal.Plain
import WindowScript.Proofs.Terminal.Residue
import WindowScript.Proofs.Terminal.Stripping
import WindowScript.Proofs.Text.Lines
import WindowScript.Proofs.Text.Quoted
import WindowScript.Proofs.Text.Utf8
import WindowScript.Run.Basic
import WindowScript.Run.Config
import WindowScript.Run.Failure
import WindowScript.Run.Host
import WindowScript.Run.Job
import WindowScript.RunLog.Entry
import WindowScript.RunLog.FileName
import WindowScript.RunLog.Machine
import WindowScript.RunLog.Session
import WindowScript.RunLog.Stored
import WindowScript.Script.Compile
import WindowScript.Script.Literal
import WindowScript.Script.Render
import WindowScript.Script.Step
import WindowScript.ScriptFile
import WindowScript.Terminal.Diagnostic
import WindowScript.Terminal.Escape
import WindowScript.Terminal.Style
import WindowScript.Text.Blank
import WindowScript.Text.Head
import WindowScript.Text.Hex
import WindowScript.Text.Identifier
import WindowScript.Text.Identifier.Continue
import WindowScript.Text.Identifier.Start
import WindowScript.Text.Lines
import WindowScript.Text.Quoted
import WindowScript.Text.Shown
import WindowScript.Text.Units
import WindowScript.Text.Utf8
import WindowScript.Usage
