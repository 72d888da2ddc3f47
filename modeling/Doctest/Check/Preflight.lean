/-
# Reading documents before anything is run

Every document that can be read gets the next file number, and the faults of its named sections are
collected in order: of the documents, of the sections as they are named, of the blocks.
-/

import Doctest.Example.Basic
import Doctest.Diagnostic.Render

namespace Doctest

/-- The files read so far, each with its name and its source, and the faults found in them. -/
structure Preflight where
  files : List (Text × Text)
  faults : List Fault
deriving DecidableEq, Repr

namespace Preflight

/-- Nothing read yet. -/
def empty : Preflight := ⟨[], []⟩

/-- One more document, with the sections of it that are to be run. -/
def add (p : Preflight) (d : Document) (titles : List Text) : Preflight :=
  ⟨p.files ++ [(d.name, d.source)],
    p.faults ++ (d.withFileId p.files.length).faults titles⟩

/-- The faults as they are shown. -/
def text (p : Preflight) : Text :=
  p.faults.flatMap fun f => Diagnostic.render p.files f.toDiagnostic

end Preflight
end Doctest
