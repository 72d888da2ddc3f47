/-
# The outline of a document

`sections` shows each header on a line of its own, as its marks, one space and its name, with two
spaces of indentation for each mark but the first:

| header | depth, name | line of the outline |
| --- | --- | --- |
| `=`, tab, `A` | 1, `A` | `= A` |
| `==`, two spaces, `B =` | 2, ` B =` | two spaces, `==  B =` |
| `===` | 3, no name | four spaces, `=== ` |

Whatever separated marks and name, the line without its indentation is a header of that depth and
name again (`Header.ofText?_written`), so the outline without its indentation reads as the headers
of the document (`Desk.sections_read_back`).
-/

import Doctest.CommandLine.Commands
import Doctest.Proofs.Document.Header
import Doctest.Proofs.Document.Lines
import Doctest.Proofs.Document.Lookup

namespace Doctest

/-! ## What is shown -/

/-- What was shown on each of the two streams. -/
abbrev Shown := Channel → Text

/-- Some more text on one of the streams. -/
def Shown.add (shown : Shown) (channel : Channel) (t : Text) : Shown := fun c =>
  if c = channel then shown c ++ t else shown c

/-- The desk of a bench without effects that keeps what is shown. -/
def Bench.keepingDesk (w : Bench Id) (colored : Bool) : Desk (StateM Shown) where
  bench := ⟨w.lib, fun path => pure (w.readText path).run,
    fun script => pure (w.runScript script).run⟩
  print channel t := modify (·.add channel t)
  colored := colored

/-- A document that can be read is shown by the lines of its headers, or not at all if it has
none. -/
theorem Desk.run_sections {w : Bench Id} {path : Path} {d : Document}
    (hd : (w.readDocument path).run = .ok d) (colored : Bool) (shown : Shown) :
    ((w.keepingDesk colored).sections path).run shown =
      if d.headers = [] then
        (1, shown.add .err ("no section headers in ".toList ++ path.display ++ ['\n']))
      else (0, shown.add .out (d.headers.flatMap Header.outlineLine)) := by
  cases hread : (w.readText path).run with
  | error cause =>
    rw [Bench.readDocument] at hd
    simp [hread] at hd
  | ok source =>
    have hsource : Document.ofText path source = d := by
      rw [Bench.readDocument] at hd
      simpa [hread] using hd
    simp only [Desk.sections, Bench.keepingDesk, Bench.readDocument, hread, hsource, pure_bind]
    split <;> rfl

/-! ## Lines of the outline -/

namespace Text

/-- The text with each line moved to the margin: the spaces at its start go. -/
def flushLeft (t : Text) : Text := (rawLines t).flatMap (List.dropWhile (· = ' '))

end Text

namespace Header

/-- The depth and the name of a header, without its place. -/
def entry (h : Header) : Nat × Text := (h.depth, h.name)

/-- The line of a header in the outline, without its indentation and its line feed. -/
def marginLine (h : Header) : Text := writtenText h.depth h.name

theorem outlineLine_eq (h : Header) :
    h.outlineLine = List.replicate (2 * (h.depth - 1)) ' ' ++ h.marginLine ++ ['\n'] := by
  simp [outlineLine, marginLine, writtenText, Text.repeated]

/-- A header as it is read from a line: it has a mark, and its name holds no line feed and does not
end in white space. -/
structure IsRead (h : Header) : Prop where
  depth_pos : 0 < h.depth
  newline_not_mem : '\n' ∉ h.name
  getLast?_name : ∀ c ∈ h.name.getLast?, Text.isBlankChar c = false

namespace IsRead

variable {h : Header}

/-- The line starts with a mark. -/
theorem exists_marginLine_eq (hh : h.IsRead) : ∃ t, h.marginLine = '=' :: t := by
  obtain ⟨n, hn⟩ : ∃ n, h.depth = n + 1 := ⟨h.depth - 1, by have := hh.depth_pos; omega⟩
  exact ⟨List.replicate n '=' ++ ' ' :: h.name, by
    rw [marginLine, writtenText, hn, List.replicate_succ, List.cons_append]⟩

theorem newline_not_mem_marginLine (hh : h.IsRead) : '\n' ∉ h.marginLine := by
  intro hmem
  rcases List.mem_append.1 hmem with hmark | hrest
  · exact absurd (List.eq_of_mem_replicate hmark) (by decide)
  · rcases List.mem_cons.1 hrest with hspace | hname
    · exact absurd hspace (by decide)
    · exact hh.newline_not_mem hname

/-- The line does not end in a terminator: if there is no name, a space stands last. -/
theorem getLast?_marginLine (hh : h.IsRead) :
    ∀ c ∈ h.marginLine.getLast?, Text.isTerminator c = false := by
  intro c hc
  rw [marginLine, writtenText, List.getLast?_append, List.getLast?_cons] at hc
  obtain rfl := Option.some.inj hc
  cases hname : h.name.getLast? with
  | none => rfl
  | some e => exact Text.isTerminator_of_not_blank (hh.getLast?_name e hname)

/-- The indentation of the line goes, and nothing else. -/
theorem span_outlineLine (hh : h.IsRead) :
    h.outlineLine.takeWhile (· = ' ') = List.replicate (2 * (h.depth - 1)) ' ' ∧
      h.outlineLine.dropWhile (· = ' ') = h.marginLine ++ ['\n'] := by
  have hall : ∀ c ∈ List.replicate (2 * (h.depth - 1)) ' ', decide (c = ' ') = true := fun c hc =>
    decide_eq_true (List.eq_of_mem_replicate hc)
  obtain ⟨t, ht⟩ := hh.exists_marginLine_eq
  rw [outlineLine_eq, List.append_assoc, ht, List.cons_append]
  constructor
  · rw [List.takeWhile_append_of_pos hall, List.takeWhile_cons_of_neg (by decide), List.append_nil]
  · rw [List.dropWhile_append_of_pos hall, List.dropWhile_cons_of_neg (by decide)]

end IsRead

end Header

/-- The headers of a document are read from its lines. -/
theorem Document.isRead_of_mem_headers {d : Document} {h : Header} (hh : h ∈ d.headers) :
    h.IsRead := by
  obtain ⟨l, hl, hread⟩ := List.mem_filterMap.1 hh
  obtain ⟨hsub, hlast⟩ := Header.name_of_ofText? hread
  exact ⟨Header.depth_pos hread, fun hmem => newline_not_mem_text hl (hsub _ hmem), hlast⟩

/-! ## The outline as a whole -/

namespace Header

variable {hs : List Header}

/-- The outline is cut into the lines of the headers. -/
theorem rawLines_outline (hread : ∀ h ∈ hs, h.IsRead) :
    Text.rawLines (hs.flatMap outlineLine) = hs.map outlineLine := by
  let line (h : Header) : Text := List.replicate (2 * (h.depth - 1)) ' ' ++ h.marginLine
  have houtline : outlineLine = fun h => line h ++ ['\n'] := funext outlineLine_eq
  have hfeed : ∀ t ∈ hs.map line, '\n' ∉ t := by
    refine List.forall_mem_map.2 fun h hh hmem => ?_
    rcases List.mem_append.1 hmem with hspace | hmargin
    · exact absurd (List.eq_of_mem_replicate hspace) (by decide)
    · exact (hread h hh).newline_not_mem_marginLine hmargin
  have hlines := Text.rawLines_unlines hfeed
  rw [Text.unlines, List.flatMap_map, List.map_map] at hlines
  rw [houtline]
  exact hlines

/-- Moved to the margin, the outline is written line by line. -/
theorem flushLeft_outline (hread : ∀ h ∈ hs, h.IsRead) :
    Text.flushLeft (hs.flatMap outlineLine) = Text.unlines (hs.map marginLine) := by
  have hdrop : hs.map (fun h => h.outlineLine.dropWhile (· = ' ')) =
      hs.map fun h => h.marginLine ++ ['\n'] :=
    List.map_congr_left fun h hh => (hread h hh).span_outlineLine.2
  rw [Text.flushLeft, rawLines_outline hread, Text.unlines, List.flatMap_map, List.flatMap_map,
    List.flatMap_def, List.flatMap_def, hdrop]

/-- The outline at the margin does not start with a byte-order mark. -/
theorem head?_unlines_marginLine (hread : ∀ h ∈ hs, h.IsRead) :
    (Text.unlines (hs.map marginLine)).head? ≠ some '\ufeff' := by
  cases hs with
  | nil => simp
  | cons h hs =>
    obtain ⟨t, ht⟩ := (hread h List.mem_cons_self).exists_marginLine_eq
    rw [List.map_cons, Text.unlines_cons, ht]
    exact fun hmark => absurd (Option.some.inj hmark) (by decide)

/-- **Lines written for headers are read as those headers.** -/
theorem ofLines_written_marginLine (hread : ∀ h ∈ hs, h.IsRead) (offset : Nat) :
    (ofLines (Line.written offset (hs.map marginLine))).map entry = hs.map entry := by
  induction hs generalizing offset with
  | nil => rfl
  | cons h hs ih =>
    rw [List.forall_mem_cons] at hread
    rw [List.map_cons, Line.written_cons]
    generalize hl : (⟨offset, h.marginLine ++ ['\n']⟩ : Line) = l
    have htext : l.text = h.marginLine :=
      Line.text_of_raw_eq (by rw [← hl]) hread.1.getLast?_marginLine
    have hline := ofText?_written hread.1.depth_pos hread.1.getLast?_name l.start
    rw [← marginLine, ← htext] at hline
    rw [ofLines_cons_of_some hline, List.map_cons, ih hread.2, List.map_cons]
    rfl

end Header

namespace Desk

/-- **The outline reads back.**  With its lines moved to the margin it is the text of a document
with the same depths and names of headers, in their order, and from each line go two spaces for each
mark but the first.  A document without headers shows nothing on the standard output, and the exit
code says so. -/
theorem sections_read_back {w : Bench Id} {path : Path} {d : Document}
    (hd : (w.readDocument path).run = .ok d) (colored : Bool) :
    let shown := ((w.keepingDesk colored).sections path).run fun _ => []
    (d.headers = [] → shown.1 = 1 ∧ shown.2 .out = []) ∧
      (d.headers ≠ [] → shown.1 = 0 ∧
        (∀ path', (Document.ofText path' (Text.flushLeft (shown.2 .out))).headers.map Header.entry =
          d.headers.map Header.entry) ∧
        (Text.rawLines (shown.2 .out)).map (fun l => (l.takeWhile (· = ' ')).length) =
          d.headers.map fun h => 2 * (h.depth - 1)) := by
  intro shown
  have hread : ∀ h ∈ d.headers, h.IsRead := fun h hh => Document.isRead_of_mem_headers hh
  have hrun := run_sections hd colored fun _ => []
  refine ⟨fun hnone => ?_, fun hsome => ?_⟩
  · rw [if_pos hnone] at hrun
    exact ⟨congrArg Prod.fst hrun, congrArg (fun r => r.2 .out) hrun⟩
  · rw [if_neg hsome] at hrun
    have hout : shown.2 .out = d.headers.flatMap Header.outlineLine :=
      congrArg (fun r => r.2 .out) hrun
    refine ⟨congrArg Prod.fst hrun, fun path' => ?_, ?_⟩
    · have hfeed : ∀ t ∈ d.headers.map Header.marginLine, '\n' ∉ t :=
        List.forall_mem_map.2 fun h hh => (hread h hh).newline_not_mem_marginLine
      rw [hout, Header.flushLeft_outline hread, ← Document.ofLines_lines, Document.lines,
        Document.source_ofText_of_head? (Header.head?_unlines_marginLine hread),
        Line.ofText_unlines 0 hfeed]
      exact Header.ofLines_written_marginLine hread 0
    · have hcount : d.headers.map (fun h => (h.outlineLine.takeWhile (· = ' ')).length) =
          d.headers.map fun h => 2 * (h.depth - 1) := List.map_congr_left fun h hh => by
        rw [(hread h hh).span_outlineLine.1, List.length_replicate]
      rw [hout, Header.rawLines_outline hread, List.map_map]
      exact hcount

/-- A document with a byte-order mark and headers of all kinds: set off by a tab, with a name that
starts with a space and holds a mark, and without a name. -/
theorem sections_read_back_tab :
    let w : Bench Id := ⟨[], fun _ => .ok "\ufeff=\tÄ \r\n==  =B\tc\n===\n=x\n".toList,
      fun _ => .ok []⟩
    let notes : Path := .ofText "notes".toList
    let shown := ((w.keepingDesk false).sections notes).run fun _ => []
    shown.1 = 0 ∧ shown.2 .out = "= Ä\n  ==  =B\tc\n    === \n".toList ∧
      ∀ path', (Document.ofText path' (Text.flushLeft (shown.2 .out))).headers.map Header.entry =
        [(1, "Ä".toList), (2, " =B\tc".toList), (3, [])] := by
  intro w notes shown
  let d : Document := Document.ofText notes "\ufeff=\tÄ \r\n==  =B\tc\n===\n=x\n".toList
  have hentries : d.headers.map Header.entry =
      [(1, "Ä".toList), (2, " =B\tc".toList), (3, [])] := by decide +kernel
  have hsome : d.headers ≠ [] := fun hnil => by
    rw [hnil] at hentries
    cases hentries
  obtain ⟨hcode, hback, -⟩ := (sections_read_back (w := w) (d := d) rfl false).2 hsome
  exact ⟨hcode, by decide +kernel, fun path' => (hback path').trans hentries⟩

end Desk
end Doctest
