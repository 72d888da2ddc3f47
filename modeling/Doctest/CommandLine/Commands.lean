/-
# The commands

| command | standard output | standard error | exit code 1 |
| --- | --- | --- | --- |
| `spec`, `test` | | the cases and the result | a case failed |
| `check` | | faults of the documents, the cases and the result | a case failed, no documents |
| `sections` | a line for each header | | no header, unreadable |
| `extract` | the examples | a fault | a fault, unreadable |
| `exec` | what the files print | | a file could not be run, or failed |

The commands are stated over any way to read files and to run scripts.
-/

import Doctest.CommandLine.Tally
import Doctest.CommandLine.Arguments
import Doctest.Check.Preflight

namespace Doctest

/-- What a command works with: the bench, the two output streams, and whether what is shown has
colours. -/
structure Desk (m : Type → Type) where
  bench : Bench m
  print : Channel → Text → m Unit
  colored : Bool

/-- The line that lists a header, indented by its depth. -/
def Header.outlineLine (h : Header) : Text :=
  Text.repeated (2 * (h.depth - 1)) ' ' ++ Text.repeated h.depth '=' ++ [' '] ++ h.name ++ ['\n']

/-- How a form is named. -/
def ExampleForm.label : ExampleForm → Text
  | .inline => "inline".toList
  | .split => "split".toList

/-- The example as it is listed, with the number of its line. -/
def Example.listing (e : Example) (line : Nat) : Text :=
  "--- example ".toList ++ Text.ofNat e.index ++ " (".toList ++ e.form.label ++
    " form, line ".toList ++ Text.ofNat line ++ ") ---\n".toList ++ Script.body e.code ++
    "--- expected ---\n".toList ++ e.expected ++ ['\n']

namespace Desk

variable {m : Type → Type} [Monad m]

/-- A message on a line of its own on standard error. -/
def complain (k : Desk m) (message : Text) : m Unit :=
  k.print .err ("error: ".toList ++ message ++ ['\n'])

/-! ## Running cases -/

/-- Runs one case, shows it, and counts it; only equal outputs pass. -/
def runCase (k : Desk m) (indent label title : Text) (c : SectionCase) (s : Tally) : m Tally := do
  let result ← c.run k.bench Bench.equality
  k.print .err (Tally.caseLine k.colored indent label result)
  return s.record title result

/-- Runs the cases of a group. -/
def runGroup (k : Desk m) (g : SpecGroup) (s : Tally) : m Tally := do
  k.print .err (Tally.titleLines k.colored g.title)
  g.cases.foldlM (runSection g.title) s
where
  /-- Runs the case of a section, under the section's title. -/
  runSection (title : Text) (s : Tally) (c : SectionCase) : m Tally := do
    let label := SpecGroup.sectionTitle c
    k.print .err ("  ".toList ++ label ++ ['\n'])
    k.runCase "    ".toList SpecGroup.caseDescription (title ++ [' '] ++ label) c s

/-- Runs the tests of a suite. -/
def runSuite (k : Desk m) (u : UnitSuite) (s : Tally) : m Tally := do
  k.print .err (Tally.titleLines k.colored u.name)
  u.cases.foldlM (fun s c =>
    k.runCase "  ".toList c.name (u.name ++ "::".toList ++ c.name) c.case s) s

/-- Runs the groups of the documents. -/
def runGroups (k : Desk m) : List DocumentEntry → Tally → m Tally
  | [], s => return s
  | d :: ds, s => do runGroups k ds (← k.runGroup (SpecGroup.ofSections d.path d.sections) s)

/-- Runs the suites of the documents, with one registry for all of them. -/
def runSuites (k : Desk m) : List DocumentEntry → Registry → Tally → m Tally
  | [], _, s => return s
  | d :: ds, r, s => do
    let (suite, r) := r.suite d.path d.sections
    runSuites k ds r (← k.runSuite suite s)

/-- Shows the result of all cases and returns the exit code. -/
def close (k : Desk m) (s : Tally) : m Nat := do
  k.print .err (s.closingText k.colored)
  return s.exitCode

/-- Runs sections of a document as a group. -/
def spec (k : Desk m) (document : Path) (titles : List Text) : m Nat := do
  k.close (← k.runGroup (SpecGroup.ofSections document titles) .zero)

/-- Runs sections of a document as a suite. -/
def test (k : Desk m) (document : Path) (titles : List Text) : m Nat := do
  k.close (← k.runSuite (UnitSuite.ofSections document titles) .zero)

/-! ## Checking what the settings list -/

/-- The message on a document that cannot be read. -/
def unreadable (path : Path) (cause : IoError) : Text :=
  "cannot read '".toList ++ path.display ++ "': ".toList ++ cause.message

/-- Reads the documents and complains about those that cannot be read. -/
def preflight (k : Desk m) : List DocumentEntry → Preflight → m Preflight
  | [], p => return p
  | d :: ds, p => do
    match ← k.bench.readDocument d.path with
    | .ok document => preflight k ds (p.add document d.sections)
    | .error cause =>
      k.complain (unreadable d.path cause)
      preflight k ds p

/-- Shows what is wrong with the documents, then runs their sections. -/
def check (k : Desk m) (c : Config) (style? : Option Style) : m Nat := do
  if c.documents = [] then
    k.complain ("no documents to check (add [[documents]] to ".toList ++
      Config.defaultFile.display ++
      ")".toList)
    return 1
  else
    let p ← k.preflight c.documents .empty
    k.print .err p.text
    match style?.getD c.style with
    | .spec => k.close (← k.runGroups c.documents .zero)
    | .unit => k.close (← k.runSuites c.documents .empty .zero)

/-! ## Looking at a document -/

/-- Lists the headers of a document. -/
def sections (k : Desk m) (path : Path) : m Nat := do
  match ← k.bench.readDocument path with
  | .error cause =>
    k.complain (unreadable path cause)
    return 1
  | .ok d =>
    if d.headers = [] then
      k.print .err ("no section headers in ".toList ++ path.display ++ ['\n'])
      return 1
    else
      k.print .out (d.headers.flatMap Header.outlineLine)
      return 0

/-- Lists the examples of a section. -/
def extract [MonadExceptOf Halt m] (k : Desk m) (path : Path) (title : Text) : m Nat := do
  match ← k.bench.readDocument path with
  | .error cause =>
    k.complain (unreadable path cause)
    return 1
  | .ok d =>
    match d.examples title with
    | .error fault =>
      k.print .err (Diagnostic.render [(d.name, d.source)] fault.toDiagnostic)
      return 1
    | .ok examples =>
      examples.forM fun e => do
        match d.lineOf? e.span.start with
        | some line => k.print .out (e.listing line)
        | none => throw Halt.splitCharacter
      return 0

/-- Runs files with warnings. -/
def exec (k : Desk m) (runEach : List Path → m (Except RunError Unit)) (files : List Path) :
    m Nat := do
  match ← runEach files with
  | .ok () => return 0
  | .error e =>
    k.complain e.message
    return 1

/-- Does what a command asks for. -/
def run [MonadExceptOf Halt m] (k : Desk m) (runEach : List Path → m (Except RunError Unit))
    (c : Config) : Command → m Nat
  | .spec document titles => k.spec document titles
  | .test document titles => k.test document titles
  | .check style? => k.check c style?
  | .sections document => k.sections document
  | .extract document title => k.extract document title
  | .exec files => k.exec runEach files

end Desk
end Doctest
