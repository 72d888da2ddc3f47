/-
# Diagnostics

A diagnostic is a message of some severity with labels that point into files and notes that follow
it.  A fault of a document becomes an error with one primary label, without a text of its own, at
the fault's place.
-/

import Doctest.Document.Fault

namespace Doctest

/-- How serious a diagnostic is. -/
inductive Severity where
  | error
  | warning
  | note
deriving DecidableEq, Repr

/-- A place in a file that a diagnostic points at. -/
structure Label where
  isPrimary : Bool
  fileId : Nat
  span : Span
  message : Text
deriving DecidableEq, Repr

/-- A message with the places and notes that explain it. -/
structure Diagnostic where
  severity : Severity
  code : Option Text
  message : Text
  labels : List Label
  notes : List Text
deriving DecidableEq, Repr

namespace Diagnostic

/-- An error that points at one place. -/
def error (message : Text) (span : Span) (fileId : Nat) (notes : List Text) : Diagnostic :=
  ⟨.error, none, message, [⟨true, fileId, span, []⟩], notes⟩

end Diagnostic

/-- The diagnostic that shows a fault. -/
def Fault.toDiagnostic (f : Fault) : Diagnostic :=
  Diagnostic.error f.message f.span f.fileId f.notes

end Doctest
