/-
# Checking a section

Every block of the section is read and run, in order.

| block | effect |
| --- | --- |
| cannot be read as an example | a failure with the fault's message |
| its run fails | the whole check ends with that error |
| otherwise | the comparison's verdict on its output |

A failing example never stops the ones after it.
-/

import Doctest.Check.Report
import Doctest.Example.Basic
import Doctest.Script

namespace Doctest

/-- What a check needs: the library's directory, a way to read files and a way to run scripts. -/
structure Bench (m : Type → Type) where
  lib : Path
  readText : Path → m (Except IoError Text)
  runScript : Text → m (Except RunError Text)

namespace Bench

variable {m : Type → Type} [Monad m]

/-- What the example prints, without one line terminator at its end. -/
def capture (b : Bench m) (code : Text) : m (Except RunError Text) := do
  match ← b.runScript (Script.wrap code b.lib.display) with
  | .ok output => return .ok (Script.chomp output)
  | .error e => return .error e

/-- The document in a file. -/
def readDocument (b : Bench m) (path : Path) : m (Except IoError Document) := do
  match ← b.readText path with
  | .ok source => return .ok (Document.ofText path source)
  | .error e => return .error e

/-- Checks the blocks one after the other. -/
def checkBlocks (b : Bench m) (compare : Text → Text → Nat → m Verdict) :
    List Block → Report → m (Except CheckError Report)
  | [], r => return .ok r
  | block :: blocks, r =>
    match Example.ofBlock block with
    | .error fault => checkBlocks b compare blocks (r.record block.index (.error fault.message))
    | .ok e => do
      match ← b.capture e.code with
      | .error cause => return .error (.run cause)
      | .ok actual =>
        let verdict ← compare e.expected actual e.index
        checkBlocks b compare blocks (r.record block.index verdict)

/-- Checks one section of a document. -/
def checkSection (b : Bench m) (compare : Text → Text → Nat → m Verdict) (d : Document)
    (name : Text) : m (Except CheckError Report) :=
  match d.findSection name with
  | .error fault => return .error (.fault fault)
  | .ok s => checkBlocks b compare s.blocks (Report.start d.name name)

/-- Reads the document at the path and checks one of its sections. -/
def checkFile (b : Bench m) (compare : Text → Text → Nat → m Verdict) (path : Path) (name : Text) :
    m (Except CheckError Report) := do
  match ← b.readDocument path with
  | .error cause => return .error (.unreadable path cause)
  | .ok d => b.checkSection compare d name

/-- The number of examples of a section of a file, if all pass. -/
def resultOfFile (b : Bench m) (compare : Text → Text → Nat → m Verdict) (path : Path)
    (name : Text) : m (Except CheckError Nat) := do
  match ← b.checkFile compare path name with
  | .error e => return .error e
  | .ok report => return report.result

/-- The comparison that accepts equal outputs only. -/
def equality (expected actual : Text) (index : Nat) : m Verdict :=
  pure (Comparison.equality expected actual index)

/-- Checks the sections and returns the messages of those that did not pass, with a blank line
between each two; `none` when all passed. -/
def assertSections (b : Bench m) (path : Path) (names : List Text) : m (Option Text) := do
  let messages ← go names
  return if messages = [] then none else some (Text.join "\n\n".toList messages)
where
  /-- The messages of the sections that did not pass. -/
  go : List Text → m (List Text)
    | [] => return []
    | name :: names => do
      match ← b.resultOfFile equality path name with
      | .ok _ => go names
      | .error e => return e.message :: (← go names)

end Bench
end Doctest
