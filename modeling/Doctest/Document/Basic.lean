/-
# Documents and their lines

A document is a text with the path it was read from and a number that tells diagnostics which file
it is.  Its lines run up to and including a line feed; a line's own text leaves out every line feed
and carriage return at its end.
-/

import Doctest.Text.Blank
import Doctest.Path

namespace Doctest

/-- A range of byte offsets, the end excluded. -/
structure Span where
  start : Nat
  stop : Nat
deriving DecidableEq, Repr

/-- A line with its terminator and the offset of its first byte. -/
structure Line where
  start : Nat
  raw : Text
deriving DecidableEq, Repr

namespace Line

/-- The line without the line feeds and carriage returns at its end. -/
def text (l : Line) : Text := Text.stripTerminators l.raw

/-- The offset just past the terminator. -/
def stop (l : Line) : Nat := l.start + Text.bytes l.raw

/-- Pieces of a text placed one after the other from an offset on. -/
def place : Nat → List Text → List Line
  | _, [] => []
  | offset, r :: rs => ⟨offset, r⟩ :: place (offset + Text.bytes r) rs

/-- The lines of a text that starts at the given offset. -/
def ofText (offset : Nat) (t : Text) : List Line := place offset (Text.rawLines t)

/-- The text that consecutive lines make up. -/
def join (ls : List Line) : Text := ls.flatMap raw

@[simp] theorem join_place (offset : Nat) (rs : List Text) :
    join (place offset rs) = rs.flatten := by
  induction rs generalizing offset with
  | nil => rfl
  | cons r rs ih => simpa [place, join, List.flatMap_cons] using ih _

/-- The lines of a text make up the text. -/
@[simp] theorem join_ofText (offset : Nat) (t : Text) : join (ofText offset t) = t := by
  simp [ofText]

end Line

/-- A document: its path, its text and its number among the files of a diagnostic. -/
structure Document where
  path : Path
  source : Text
  fileId : Nat
deriving DecidableEq, Repr

namespace Document

/-- A document from the text of a file, without the byte-order mark that may start it. -/
def ofText (path : Path) (source : Text) : Document :=
  ⟨path, (Text.afterStart? ['\ufeff'] source).getD source, 0⟩

/-- The same document as file number `n`. -/
def withFileId (d : Document) (n : Nat) : Document := { d with fileId := n }

/-- How the document is called in messages: its path as it is shown. -/
def name (d : Document) : Text := d.path.display

/-- The lines of the document. -/
def lines (d : Document) : List Line := Line.ofText 0 d.source

/-- The number, from 1, of the line that holds the byte at the offset; an offset past the end counts
as the end.  There is none when the offset falls inside a character. -/
def lineOf? (d : Document) (offset : Nat) : Option Nat :=
  (Text.takeBytes? d.source (min offset (Text.bytes d.source))).map fun t => t.count '\n' + 1

end Document
end Doctest
