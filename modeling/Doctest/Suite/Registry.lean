/-
# A registry of test names

The registry hands out a name for each pair of a document and a section, once.  A name that is
taken already gets the first free of the endings `_2`, `_3`, ….

Which names are taken and which pair has which name are known together: handing out a name is the
only step that adds to either, and it adds to both.  So both are read off one list.
-/

import Doctest.Suite.Names

namespace Doctest

/-- The names handed out, in order, with the pair that each belongs to. -/
structure Registry where
  entries : List ((Text × Text) × Text)
deriving DecidableEq, Repr

namespace Registry

/-- The registry before any name is handed out. -/
def empty : Registry := ⟨[]⟩

/-- The names handed out. -/
def names (r : Registry) : List Text := r.entries.map Prod.snd

/-- The pairs that have a name. -/
def pairs (r : Registry) : List (Text × Text) := r.entries.map Prod.fst

/-- The name with the ending for the count `k`. -/
def numbered (base : Text) (k : Nat) : Text := base ++ ['_'] ++ Text.ofNat k

/-- The base itself if it is free, else the free name with the least count from 2 on.  Among one
more candidates than there are taken names one is free. -/
def freeName (taken : List Text) (base : Text) : Text :=
  if base ∈ taken then
    (((List.range (taken.length + 1)).map fun i => numbered base (i + 2)).find?
      fun n => n ∉ taken).getD base
  else base

/-- Claims a name for a section of a document; there is none for a pair that has one. -/
def register (r : Registry) (document title : Text) : Option Text × Registry :=
  if (document, title) ∈ r.pairs then (none, r)
  else
    let name := freeName r.names (Suite.testName document title)
    (some name, ⟨r.entries ++ [((document, title), name)]⟩)

/-- Number of pairs that have a name. -/
def size (r : Registry) : Nat := r.entries.length

/-- Whether no name has been handed out. -/
def isEmpty (r : Registry) : Bool := r.entries.isEmpty

end Registry
end Doctest
