/-
# The outcome of a section

A report counts the examples of a section, also those that could not be read, and lists the ones
that failed.  As a text each failure stands under a summary line:

    2 of 3 examples failed in section `S' of `D'
      example 0: first line of the message
        next line of the message
      example 2: …
-/

import Doctest.Check.Comparison
import Doctest.Document.Fault
import Doctest.Interpreter.Error

namespace Doctest

/-- An example that did not pass. -/
structure ExampleFailure where
  index : Nat
  message : Text
deriving DecidableEq, Repr

namespace ExampleFailure

/-- The failure as text: the index, then the lines of the message, all but the first indented. -/
def display (f : ExampleFailure) : Text :=
  "example ".toList ++ Text.ofNat f.index ++ ": ".toList ++
    match Text.lines f.message with
    | [] => []
    | first :: rest => first ++ rest.flatMap fun l => "\n  ".toList ++ l

end ExampleFailure

/-- The outcome of every example of a section. -/
structure Report where
  document : Text
  title : Text
  examples : Nat
  failures : List ExampleFailure
deriving DecidableEq, Repr

namespace Report

/-- The report before any example. -/
def start (document title : Text) : Report := ⟨document, title, 0, []⟩

/-- The report with the verdict on one more example. -/
def record (r : Report) (index : Nat) : Verdict → Report
  | .ok () => { r with examples := r.examples + 1 }
  | .error message =>
    { r with examples := r.examples + 1, failures := r.failures ++ [⟨index, message⟩] }

/-- Whether no example failed. -/
def passed (r : Report) : Bool := r.failures.isEmpty

/-- Number of examples that passed. -/
def passedCount (r : Report) : Nat := r.examples - r.failures.length

/-- The failures as text, each on a line of its own under the summary line. -/
def failureLines (fs : List ExampleFailure) : Text :=
  fs.flatMap fun f => "\n  ".toList ++ Text.replaceChar '\n' "\n  ".toList f.display

/-- The report as text. -/
def message (r : Report) : Text :=
  Text.ofNat r.failures.length ++ " of ".toList ++ Text.ofNat r.examples ++
    " examples failed in section `".toList ++ r.title ++ "' of `".toList ++ r.document ++
    "'".toList ++ failureLines r.failures

end Report

/-- Why a section did not pass. -/
inductive CheckError where
  | unreadable (path : Path) (cause : IoError)
  | fault (cause : Fault)
  | run (cause : RunError)
  | failures (report : Report)
deriving DecidableEq, Repr

namespace CheckError

/-- The message of a section that did not pass. -/
def message : CheckError → Text
  | .unreadable path cause =>
    "cannot read `".toList ++ path.display ++ "': ".toList ++ cause.message
  | .fault f => f.message
  | .run cause => cause.message
  | .failures r => r.message

end CheckError

/-- The number of examples of a section that passed as a whole. -/
def Report.result (r : Report) : Except CheckError Nat :=
  if r.passed then .ok r.examples else .error (.failures r)

end Doctest
