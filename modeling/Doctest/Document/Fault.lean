/-
# What can be wrong with a documented section

| cause | message |
| --- | --- |
| no header has the name | ``couldn't find section `S' of `D'`` |
| two or more separators in a block | ``parse error in example I of section `S': N `#### output:` separators`` |
| no code before the separator | ``parse error in example I of section `S': no code before `#### output:` `` |

A missing section points at the start of the document, an ambiguous block at its second separator,
a block without code at the whole block.
-/

import Doctest.Document.Basic

namespace Doctest

/-- The kinds of faults, without their details. -/
inductive FaultKind where
  | sectionNotFound
  | ambiguousBlock
  | emptyCode
deriving DecidableEq, Repr

/-- What is wrong, with the details that the message tells. -/
inductive FaultCause where
  | sectionNotFound (title document : Text) (available : List Text)
  | ambiguousBlock (index : Nat) (title : Text) (separators : Nat)
  | emptyCode (index : Nat) (title : Text)
deriving DecidableEq, Repr

/-- A fault in a document and where it is. -/
structure Fault where
  cause : FaultCause
  span : Span
  fileId : Nat
deriving DecidableEq, Repr

namespace FaultCause

/-- The kind of a cause. -/
def kind : FaultCause → FaultKind
  | .sectionNotFound .. => .sectionNotFound
  | .ambiguousBlock .. => .ambiguousBlock
  | .emptyCode .. => .emptyCode

/-- How a message names a block. -/
def blockLabel (index : Nat) (title : Text) : Text :=
  "parse error in example ".toList ++ Text.ofNat index ++ " of section `".toList ++ title ++
    "': ".toList

/-- The message of a fault. -/
def message : FaultCause → Text
  | .sectionNotFound title document _ =>
    "couldn't find section `".toList ++ title ++ "' of `".toList ++ document ++ "'".toList
  | .ambiguousBlock index title separators =>
    blockLabel index title ++ Text.ofNat separators ++ " `#### output:` separators".toList
  | .emptyCode index title =>
    blockLabel index title ++ "no code before `#### output:`".toList

/-- What helps to mend a fault. -/
def notes : FaultCause → List Text
  | .sectionNotFound _ _ available =>
    if available = [] then ["the document has no section headers".toList]
    else ["available sections: ".toList ++
      Text.join ", ".toList (available.map fun n => "`".toList ++ n ++ "'".toList)]
  | .ambiguousBlock .. =>
    ["separate code from its output with exactly one `#### output:` line".toList]
  | .emptyCode .. => []

end FaultCause

namespace Fault

/-- The kind of a fault. -/
def kind (f : Fault) : FaultKind := f.cause.kind

/-- The message of a fault. -/
def message (f : Fault) : Text := f.cause.message

/-- The notes of a fault. -/
def notes (f : Fault) : List Text := f.cause.notes

end Fault
end Doctest
