/-
# Example blocks

| line | |
| --- | --- |
| two spaces, then a character that is not white space | opens a block, outside of one |
| a first character that is not white space | closes a block |
| white space only | belongs to a block if an indented line of the block follows |
| any other | belongs to a block |

A block's text runs from its first line to its last line that is not blank.  The line that closes a
block never opens one.
-/

import Doctest.Document.Section

namespace Doctest

/-- A run of indented lines of a section, not yet read as an example. -/
structure Block where
  index : Nat
  title : Text
  text : Text
  span : Span
  fileId : Nat
deriving DecidableEq, Repr

/-- The indentation of an example. -/
def indent : Text := [' ', ' ']

namespace Line

/-- Whether the line opens a block. -/
def opensBlock (l : Line) : Bool :=
  match Text.afterStart? indent l.text with
  | some rest => Text.startsSolid rest
  | none => false

/-- Whether the line closes a block. -/
def closesBlock (l : Line) : Bool := Text.startsSolid l.text

/-- Whether the line holds white space only. -/
def isBlank (l : Line) : Bool := Text.isBlank l.text

/-- The lines up to the last one that is not blank. -/
def dropBlankEnd (ls : List Line) : List Line := (ls.reverse.dropWhile isBlank).reverse

end Line

/-- A reader of the blocks of a section: the lines not yet read and the index of the next block. -/
structure BlockReader where
  title : Text
  fileId : Nat
  unread : List Line
  index : Nat
deriving DecidableEq, Repr

namespace BlockReader

/-- The reader at the start of a section. -/
def ofSection (s : Section) : BlockReader :=
  ⟨s.name, s.fileId, Line.ofText s.bodyOffset s.body, 0⟩

/-- The block that the line `first` opens before the lines `inside`. -/
def blockOf (r : BlockReader) (first : Line) (inside : List Line) : Block :=
  let text := first.raw ++ Line.join (Line.dropBlankEnd inside)
  ⟨r.index, r.title, text, ⟨first.start, first.start + Text.bytes text⟩, r.fileId⟩

/-- The next block and the reader past it, or nothing at the end. -/
def next? (r : BlockReader) : Option (Block × BlockReader) :=
  match r.unread.dropWhile (!Line.opensBlock ·) with
  | [] => none
  | first :: rest =>
    let inside := rest.takeWhile (!Line.closesBlock ·)
    some (r.blockOf first inside,
      { r with unread := (rest.drop inside.length).drop 1, index := r.index + 1 })

/-- The reader after it was asked for a block: it stands past the block or, if there is none, at the
end of the lines. -/
def advance (r : BlockReader) : BlockReader :=
  match r.next? with
  | some (_, r') => r'
  | none => { r with unread := [] }

/-- Reading a block consumes a line at least. -/
theorem unread_length_of_next? {r r' : BlockReader} {b : Block} (h : r.next? = some (b, r')) :
    r'.unread.length < r.unread.length := by
  unfold next? at h
  split at h
  · simp at h
  · rename_i first rest hd
    have hl : (first :: rest).length ≤ r.unread.length := hd ▸ (List.dropWhile_sublist _).length_le
    simp only [Option.some.injEq, Prod.mk.injEq] at h
    obtain ⟨_, rfl⟩ := h
    simp only [List.length_drop, List.length_cons] at hl ⊢
    omega

/-- The blocks not yet read. -/
def toList (r : BlockReader) : List Block :=
  match _h : r.next? with
  | none => []
  | some (b, r') => b :: toList r'
termination_by r.unread.length
decreasing_by exact unread_length_of_next? _h

end BlockReader

/-- The blocks of a section, in order. -/
def Section.blocks (s : Section) : List Block := (BlockReader.ofSection s).toList

end Doctest
