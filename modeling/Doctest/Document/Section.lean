/-
# Sections

A section is named by a header.  Its body starts after the header's line and ends before the next
header that is not deeper, named or not, or at the end of the document; deeper headers belong to
the body.  Of several headers with one name the first counts, and a header without a name cannot be
looked up.
-/

import Doctest.Document.Header
import Doctest.Document.Fault

namespace Doctest

/-- A section of a document. -/
structure Section where
  name : Text
  depth : Nat
  headerSpan : Span
  body : Text
  bodyOffset : Nat
  fileId : Nat
deriving DecidableEq, Repr

namespace Section

/-- Where the body stands in the document. -/
def bodySpan (s : Section) : Span := ⟨s.bodyOffset, s.bodyOffset + Text.bytes s.body⟩

/-- Whether a line belongs to the body of a section of the given depth. -/
def continues (depth : Nat) (l : Line) : Bool :=
  match Header.ofLine? l with
  | some h => depth < h.depth
  | none => true

/-- The section that the header `h` opens; `l` is the header's line and `rest` are the lines after
it. -/
def opened (fileId : Nat) (h : Header) (l : Line) (rest : List Line) : Section :=
  ⟨h.name, h.depth, h.span, Line.join (rest.takeWhile (continues h.depth)), l.stop, fileId⟩

/-- The section that the first header with the name opens. -/
def find? (fileId : Nat) (name : Text) : List Line → Option Section
  | [] => none
  | l :: rest =>
    match Header.ofLine? l with
    | some h => if h.name ≠ [] ∧ h.name = name then some (opened fileId h l rest)
                else find? fileId name rest
    | none => find? fileId name rest

end Section

namespace Document

/-- The names that can be looked up in the document. -/
def sectionNames (d : Document) : List Text := (d.headers.map Header.name).filter (· ≠ [])

/-- The fault of a document without a section of that name. -/
def sectionNotFound (d : Document) (name : Text) : Fault :=
  ⟨.sectionNotFound name d.name d.sectionNames, ⟨0, 0⟩, d.fileId⟩

/-- The section with the given name. -/
def findSection (d : Document) (name : Text) : Except Fault Section :=
  match Section.find? d.fileId name d.lines with
  | some s => .ok s
  | none => .error (d.sectionNotFound name)

end Document
end Doctest
