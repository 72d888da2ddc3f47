/-
# Header lines

| line | header |
| --- | --- |
| `=`, `==`, … and nothing more | depth 1, 2, …, no name |
| `=` … then a space or a tab, then a text | the depth, the text without white space at its end |
| `=` … then any other character | ordinary text |
-/

import Doctest.Document.Basic

namespace Doctest

/-- A header: the length of its run of `=`, its name and where its line stands. -/
structure Header where
  depth : Nat
  name : Text
  span : Span
deriving DecidableEq, Repr

namespace Header

/-- The name that follows the run of `=`, when the line is a header. -/
def nameAfter? : Text → Option Text
  | [] => some []
  | c :: rest => if c = ' ' || c = '\t' then some (Text.trimEnd rest) else none

/-- Reads a line without its terminator that starts at the offset. -/
def ofText? (text : Text) (offset : Nat) : Option Header :=
  let marks := text.takeWhile (· = '=')
  if marks = [] then none
  else (nameAfter? (text.dropWhile (· = '='))).map fun name =>
    ⟨marks.length, name, ⟨offset, offset + Text.bytes text⟩⟩

/-- Reads a line of a document. -/
def ofLine? (l : Line) : Option Header := ofText? l.text l.start

/-- A header is at least one mark deep. -/
theorem depth_pos {text : Text} {offset : Nat} {h : Header} (hh : ofText? text offset = some h) :
    0 < h.depth := by
  unfold ofText? at hh
  simp only at hh
  split at hh
  · simp at hh
  · rename_i hm
    obtain ⟨_, _, rfl⟩ := Option.map_eq_some_iff.1 hh
    exact List.length_pos_iff.2 hm

end Header

/-- Every header of the document, in order. -/
def Document.headers (d : Document) : List Header := d.lines.filterMap Header.ofLine?

end Doctest
