/-
# Sections as test cases

| style | per document | per section |
| --- | --- | --- |
| spec | a group, titled with the path as it is shown | a group ``section `S'`` with one case |
| unit | a suite | a named test, none for a pair seen before |

A case reads its document when it runs.  Documents whose paths are shown alike are one document for
the names of tests, so that in unit style a section of the second one has none.
-/

import Doctest.Suite.Registry
import Doctest.Check.Section

namespace Doctest

/-- A section of a document, to be run. -/
structure SectionCase where
  document : Path
  title : Text
deriving DecidableEq, Repr

namespace SectionCase

/-- The fields as they stand in the text of a case. -/
def describeFields (c : SectionCase) : Text :=
  "document: ".toList ++ Text.quotedBytes c.document ++ ", section: ".toList ++
    Text.quoted c.title ++ ", .. \x7d".toList

/-- Runs every example of the section and returns their number. -/
def run {m : Type → Type} [Monad m] (b : Bench m) (compare : Text → Text → Nat → m Verdict)
    (c : SectionCase) : m (Except CheckError Nat) :=
  b.resultOfFile compare c.document c.title

end SectionCase

/-- The cases of a document in spec style. -/
structure SpecGroup where
  title : Text
  cases : List SectionCase
deriving DecidableEq, Repr

namespace SpecGroup

/-- What each case is said to do. -/
def caseDescription : Text := "should run as claimed".toList

/-- The group for the named sections of a document. -/
def ofSections (document : Path) (titles : List Text) : SpecGroup :=
  ⟨document.display, titles.map (⟨document, ·⟩)⟩

/-- The title of the group that holds a case. -/
def sectionTitle (c : SectionCase) : Text := "section `".toList ++ c.title ++ "'".toList

/-- A case as text. -/
def describe (c : SectionCase) : Text :=
  "SpecCase \x7b description: ".toList ++ Text.quoted caseDescription ++ ", ".toList ++
    c.describeFields

end SpecGroup

/-- A test with its name. -/
structure UnitCase where
  name : Text
  case : SectionCase
deriving DecidableEq, Repr

namespace UnitCase

/-- A test as text. -/
def describe (c : UnitCase) : Text :=
  "UnitTestCase \x7b name: ".toList ++ Text.quoted c.name ++ ", ".toList ++ c.case.describeFields

end UnitCase

/-- The tests of a document in unit style. -/
structure UnitSuite where
  name : Text
  cases : List UnitCase
deriving DecidableEq, Repr

namespace Registry

/-- The named tests for the sections that the registry has not seen, and the registry after.  The
registry knows a document as it is shown. -/
def registerAll (r : Registry) (document : Path) : List Text → List UnitCase × Registry
  | [] => ([], r)
  | title :: titles =>
    match r.register document.display title with
    | (none, r) => registerAll r document titles
    | (some name, r) =>
      let (cases, r) := registerAll r document titles
      (⟨name, ⟨document, title⟩⟩ :: cases, r)

/-- The suite for the named sections of a document, and the registry after. -/
def suite (r : Registry) (document : Path) (titles : List Text) : UnitSuite × Registry :=
  let (cases, r) := r.registerAll document titles
  (⟨Suite.suiteName document.display, cases⟩, r)

end Registry

/-- The suite for the named sections of a document with a registry of its own. -/
def UnitSuite.ofSections (document : Path) (titles : List Text) : UnitSuite :=
  (Registry.empty.suite document titles).1

end Doctest
