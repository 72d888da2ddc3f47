/-
# Diagnostics in the terminal

A label within one line:

    error: message
      ┌─ name:line:column
      │
    3 │ source line
      │   ^^^
      │
      = note

and one that covers several lines, of which at most three after the first and one before the last
are shown; one hidden line is shown anyway and several become a gap:

       │
     3 │ ╭ first line
     4 │ │ next line
       · │
    11 │ │ last line
       │ ╰───^

A tab is drawn as spaces up to the next multiple of four columns.  Line `n` starts after the
`n - 1`-th line feed, so the offset after a final line feed is on a line of its own, which is empty.
-/

import Doctest.Diagnostic.Basic
import Doctest.Text.Width

namespace Doctest
namespace Diagnostic

/-- The lines of a source as they are numbered: what follows the last line feed counts as a line,
even when nothing follows it. -/
def sourceLines (source : Text) : List Line := Line.place 0 (go source)
where
  /-- Cuts after each line feed. -/
  go : Text → List Text
    | [] => [[]]
    | c :: t =>
      if c = '\n' then [c] :: go t
      else match go t with
        | [] => [[c]]
        | l :: ls => (c :: l) :: ls

/-- The index, from 0, of the line that holds the offset: the last one that starts at or before
it. -/
def lineIndex (ls : List Line) (offset : Nat) : Nat :=
  (ls.takeWhile (·.start ≤ offset)).length - 1

/-- A source line as it is drawn: without line feeds, carriage returns and NULs at its end. -/
def shown (l : Line) : Text :=
  Text.trimEndWhile (fun c => Text.isTerminator c || c = '\x00') l.raw

/-- A character of a drawn line: the character, the offset of its first byte in the line and the
number of columns that it takes. -/
structure Cell where
  char : Char
  offset : Nat
  columns : Nat
deriving DecidableEq, Repr

/-- The distance from a column to the next tab stop. -/
def tabColumns (column : Nat) : Nat := 4 - column % 4

/-- The cells of a line that is drawn from the given column and offset on. -/
def cellsFrom : Nat → Nat → Text → List Cell
  | _, _, [] => []
  | column, offset, c :: t =>
    let w := if c = '\t' then tabColumns column else Text.width c
    ⟨c, offset, w⟩ :: cellsFrom (column + w) (offset + c.utf8Size) t

/-- The cells of a line. -/
def cells (t : Text) : List Cell := cellsFrom 0 0 t

/-- A line with its tabs drawn as spaces. -/
def drawn (t : Text) : Text :=
  (cells t).flatMap fun c => if c.char = '\t' then Text.repeated c.columns ' ' else [c.char]

/-- The marks under a line for a label from `start` to `stop`, offsets in the line: a caret for each
column of a character that the label touches, a space for each column before it.  A label has at
least one byte, and one column past the end of the line can be marked. -/
def carets (t : Text) (start stop : Nat) : Text :=
  let stop := max stop (start + 1)
  let mark (c : Cell) : Text :=
    let after := c.offset + c.char.utf8Size
    if c.offset < stop ∧ start < after then Text.repeated c.columns '^'
    else if c.offset < stop then Text.repeated c.columns ' '
    else []
  (cells t ++ [Cell.mk '\x00' (Text.bytes t) 1]).flatMap mark

/-- The line under the last line of a long label: a rule up to the label's end, then a caret. -/
def closing (t : Text) (stop : Nat) : Text :=
  "╰".toList ++
    ((cells t).takeWhile (·.offset < stop)).flatMap (fun c => Text.repeated c.columns '─') ++ ['^']

/-- A text with spaces before it, up to the width. -/
def padLeft (width : Nat) (t : Text) : Text := Text.repeated (width - t.length) ' ' ++ t

/-- The rows that are drawn between the first and the last line of a long label: `some i` for line
`i`, `none` for a gap. -/
def innerRows (first last : Nat) : List (Option Nat) :=
  let inner := (List.range (last - first - 1)).map (first + 1 + ·)
  let shownAfter := inner.filter (· ≤ first + 3)
  let shownBefore := inner.filter fun i => first + 3 < i && last ≤ i + 1
  let hidden := inner.filter fun i => first + 3 < i && i + 1 < last
  shownAfter.map some ++ (if hidden.length ≤ 1 then hidden.map some else [none]) ++
    shownBefore.map some

/-- The rows of a label within the line with index `i`. -/
def shortRows (gutter : Nat) (ls : List Line) (i : Nat) (span : Span) : List Text :=
  let l := ls[i]?.getD ⟨0, []⟩
  let blank := Text.repeated gutter ' '
  let t := shown l
  [blank ++ " │".toList,
   padLeft gutter (Text.ofNat (i + 1)) ++ " │ ".toList ++ drawn t,
   blank ++ " │ ".toList ++ carets t (span.start - l.start) (span.stop - l.start)]

/-- The rows of a label over the lines with indices `first` to `last`. -/
def longRows (gutter : Nat) (ls : List Line) (first last : Nat) (span : Span) : List Text :=
  let blank := Text.repeated gutter ' '
  let line (i : Nat) : Line := ls[i]?.getD ⟨0, []⟩
  let row (mark : Text) (i : Nat) : Text :=
    padLeft gutter (Text.ofNat (i + 1)) ++ " │ ".toList ++ mark ++ [' '] ++ drawn (shown (line i))
  let inner := (innerRows first last).map fun
    | some i => row "│".toList i
    | none => blank ++ " · │".toList
  [blank ++ " │  ".toList, row "╭".toList first] ++ inner ++
    [row "│".toList last,
     blank ++ " │ ".toList ++ closing (shown (line last)) (span.stop - (line last).start)]

/-- The rows that show a label in the file called `name`. -/
def labelRows (name source : Text) (gutter : Nat) (label : Label) : List Text :=
  let ls := sourceLines source
  let first := lineIndex ls label.span.start
  let last := lineIndex ls label.span.stop
  let l := ls[first]?.getD ⟨0, []⟩
  let column := ((cells l.raw).takeWhile (·.offset < label.span.start - l.start)).length + 1
  let head :=
    Text.repeated gutter ' ' ++ " ┌─ ".toList ++ name ++ [':'] ++ Text.ofNat (first + 1) ++
    [':'] ++ Text.ofNat column
  head :: (if first = last then shortRows gutter ls first label.span
    else longRows gutter ls first last label.span)

/-- The rows of a note: its first line after an equals sign, the others under it. -/
def noteRows (gutter : Nat) (note : Text) : List Text :=
  let blank := Text.repeated gutter ' '
  match Text.lines note with
  | [] => []
  | first :: rest =>
    (blank ++ " = ".toList ++ first) :: rest.map fun l => blank ++ "   ".toList ++ l

/-- The word for a severity. -/
def severityWord : Severity → Text
  | .error => "error".toList
  | .warning => "warning".toList
  | .note => "note".toList

/-- The width of the line numbers of a diagnostic: that of the number of the last line of its
labels. -/
def gutterWidth (files : List (Text × Text)) (labels : List Label) : Nat :=
  (labels.map fun label =>
    match files[label.fileId]? with
    | some (_, source) =>
      (Text.ofNat (lineIndex (sourceLines source) label.span.stop + 1)).length
    | none => 0).foldl max 0

/-- A diagnostic as text, given the names and sources of the files by number; a blank line ends
it. -/
def render (files : List (Text × Text)) (d : Diagnostic) : Text :=
  let gutter := gutterWidth files d.labels
  let body := d.labels.flatMap fun label =>
    match files[label.fileId]? with
    | some (name, source) => labelRows name source gutter label
    | none => []
  let notes := d.notes.flatMap (noteRows gutter)
  let between := if notes = [] then [] else [Text.repeated gutter ' ' ++ " │".toList]
  let head := severityWord d.severity ++ ": ".toList ++ d.message
  ((head :: body) ++ between ++ notes ++ [[]]).flatMap fun row => row ++ ['\n']

end Diagnostic
end Doctest
