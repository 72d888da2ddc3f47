import Doctest.Example.Basic
import Doctest.Document.Fault
import Doctest.Diagnostic.Render
import Doctest.Check.Section
import Doctest.Check.Preflight
import Doctest.Suite.Cases
import Doctest.Memo
import Doctest.Interpreter.Basic
import Doctest.Config
import Doctest.CommandLine.Program
import Doctest.Posix.World
import Doctest.Main
import Doctest.Proofs.Path
import Doctest.Proofs.Host.Recorded
import Doctest.Proofs.Interpreter.Search
import Doctest.Proofs.Interpreter.Launch
import Doctest.Proofs.Interpreter.Course
import Doctest.Proofs.Interpreter.Uses
import Doctest.Proofs.Interpreter.Executable
import Doctest.Proofs.Text.Slice
import Doctest.Proofs.Document.Lines
import Doctest.Proofs.Text.Lines
import Doctest.Proofs.Example.Grammar
import Doctest.Proofs.Example.Blocks
import Doctest.Proofs.Document.Lookup
import Doctest.Proofs.Check.Calls
import Doctest.Proofs.Example.Written
import Doctest.Proofs.Example.RoundTrip
import Doctest.Proofs.Suite.Registry
import Doctest.Proofs.Example.Nesting
import Doctest.Proofs.Check.Outcomes
import Doctest.Proofs.CommandLine.Counts
import Doctest.Proofs.Check.Preflight
import Doctest.Proofs.CommandLine.ExitCode
import Doctest.Proofs.Example.Spans
import Doctest.Proofs.Example.LineEndings
import Doctest.Proofs.Example.Surrounded
import Doctest.Proofs.CommandLine.Outline
import Doctest.Proofs.CommandLine.Places
import Doctest.Proofs.Check.Agreement
import Doctest.Proofs.Check.Accepted
import Doctest.Proofs.Interpreter.Tending
import Doctest.Proofs.Example.Decision
import Doctest.Proofs.Interpreter.Reaped
import Doctest.Proofs.Script.Lines
import Doctest.Proofs.Script.Literal
import Doctest.Proofs.Text.Split
import Doctest.Proofs.Example.BlankLines
import Doctest.Proofs.Check.Report
import Doctest.Proofs.Text.Quoted
import Doctest.Proofs.Check.Mismatch
import Doctest.Proofs.Interpreter.Outlook
import Doctest.Proofs.CommandLine.Sources
import Doctest.Proofs.Document.LineNumber
import Doctest.Proofs.Memo
import Doctest.Proofs.Config.Rebase
import Doctest.Proofs.Interpreter.Deadline
import Doctest.Proofs.Interpreter.Clock
import Doctest.Proofs.Interpreter.Limit
import Doctest.Proofs.CommandLine.TimeLimit
import Doctest.Proofs.CommandLine.Verdict
