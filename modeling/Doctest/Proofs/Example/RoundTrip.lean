/-
# Writing a section down and reading it back

A section is written as its header, then lines of prose and examples in turn.  Lines of prose are
blank or start in the first column, and are no headers that would end the section; a line of prose
that is not blank stands between each two examples, for else the second would go on with the block
of the first.  Reading the section gives the examples that were written, in order
(`examples_ofText`).
-/

import Doctest.Proofs.Document.Lookup
import Doctest.Proofs.Example.Blocks
import Doctest.Proofs.Example.Written

namespace Doctest

/-- A line of prose in a section of the depth. -/
structure IsProse (depth : Nat) (t : Text) : Prop where
  isLine : t.IsLine
  blank_or_solid : t.isBlank = true ∨ ∃ c r, t = c :: r ∧ Text.isBlankChar c = false
  deeper : ∀ offset h, Header.ofText? t offset = some h → depth < h.depth

/-- A section as its author writes it: the header's depth and name, prose, and the examples, each
with the prose after it. -/
structure WrittenSection where
  depth : Nat
  name : Text
  before : List Text
  parts : List (WrittenExample × List Text)
  depth_pos : 1 ≤ depth
  name_ne_nil : name ≠ []
  name_one_line : '\n' ∉ name
  name_end : ∀ c ∈ name.getLast?, Text.isBlankChar c = false
  before_prose : ∀ t ∈ before, IsProse depth t
  after_prose : ∀ p ∈ parts, ∀ t ∈ p.2, IsProse depth t
  separated : ∀ p ∈ parts.dropLast, ∃ t ∈ p.2, t.isBlank = false

namespace WrittenSection

variable (w : WrittenSection)

/-- The lines of some examples, each with the prose after it. -/
def partLines (parts : List (WrittenExample × List Text)) : List Text :=
  parts.flatMap fun p => p.1.lines ++ p.2

/-- The line of the header. -/
def header : Text := Header.writtenText w.depth w.name

/-- The lines after the header. -/
def body : List Text := w.before ++ partLines w.parts

/-- The text of the section. -/
def text : Text := Text.unlines (w.header :: w.body)

/-- Some examples with the index and the offset of the block of each. -/
def located : Nat → Nat → List (WrittenExample × List Text) → List (WrittenExample × Nat × Nat)
  | _, _, [] => []
  | index, offset, (e, after) :: parts =>
    (e, index, offset) ::
      located (index + 1) (offset + Text.bytes e.text + Text.bytes (Text.unlines after)) parts

/-- The examples that were written, at their places in the text. -/
def examples : List Example :=
  (located 0 (Text.bytes (Text.unlines (w.header :: w.before))) w.parts).map fun p =>
    p.1.toExample p.2.1 p.2.2

end WrittenSection

/-! ## Prose -/

namespace IsProse

variable {depth offset : Nat} {ls : List Text} {l : Line}

theorem not_opens (h : ∀ t ∈ ls, IsProse depth t) (hl : l ∈ Line.written offset ls) :
    ¬ l.Opens := by
  have hkind := Line.forall_text_written (fun t ht => (h t ht).isLine)
    (fun t ht => (h t ht).blank_or_solid) l hl
  intro ho
  rcases hkind with hblank | hsolid
  · exact ho.not_blank (Text.isBlank_iff.1 hblank)
  · exact ho.not_closes hsolid

/-- **Prose goes on with the section.** -/
theorem continues (h : ∀ t ∈ ls, IsProse depth t) (hl : l ∈ Line.written offset ls) :
    Section.continues depth l = true := by
  have hdeeper := Line.forall_text_written (fun t ht => (h t ht).isLine)
    (fun t ht => (h t ht).deeper) l hl
  cases hh : Header.ofLine? l with
  | none => exact Section.continues_of_none hh depth
  | some g =>
    rw [Section.continues_of_some hh, decide_eq_true_iff]
    exact hdeeper l.start g hh

/-- The blank lines with which prose starts. -/
theorem blank_takeWhile (h : ∀ t ∈ ls, IsProse depth t)
    (hl : l ∈ Line.written offset (ls.takeWhile Text.isBlank)) : l.Blank := by
  have hline : ∀ t ∈ ls.takeWhile Text.isBlank, t.IsLine := fun t ht =>
    (h t ((List.takeWhile_sublist _).mem ht)).isLine
  exact Text.isBlank_iff.1
    (Line.forall_text_written hline (fun t ht => List.mem_takeWhile_imp ht) l hl)

/-- **Past its blank lines prose closes a block**, unless nothing comes there. -/
theorem closes_dropWhile (h : ∀ t ∈ ls, IsProse depth t) {rest : List Line}
    (hrest : (∃ t ∈ ls, t.isBlank = false) ∨ rest = [])
    (hl : l ∈ (Line.written offset (ls.dropWhile Text.isBlank) ++ rest).head?) : l.Closes := by
  cases hd : ls.dropWhile Text.isBlank with
  | nil =>
    have hblank := List.dropWhile_eq_nil_iff.1 hd
    rcases hrest with ⟨t, ht, hsolid⟩ | rfl
    · rw [hblank t ht] at hsolid
      simp at hsolid
    · rw [hd] at hl
      simp at hl
  | cons t after =>
    have ht : t ∈ ls := (List.dropWhile_sublist Text.isBlank).mem (hd ▸ List.mem_cons_self)
    have hnot := List.head?_dropWhile_not Text.isBlank ls
    rw [hd] at hnot
    have hnot : t.isBlank = false := hnot
    rw [hd, Line.written_cons] at hl
    obtain rfl : _ = l := Option.some.inj hl
    have htext : Line.text ⟨offset, t ++ ['\n']⟩ = t :=
      Line.text_of_raw_eq rfl (h t ht).isLine.getLast?
    rcases (h t ht).blank_or_solid with hblank | hsolid
    · rw [hblank] at hnot
      simp at hnot
    · rw [Line.Closes, htext]
      exact hsolid

end IsProse

/-- An example goes on with the section: none of its lines starts with a mark. -/
theorem WrittenExample.continues (e : WrittenExample) (depth offset : Nat) :
    ∀ l ∈ Line.written offset e.lines, Section.continues depth l = true := by
  have hhead : ∀ t ∈ e.lines, t.head? ≠ some '=' := by
    intro t ht hmark
    rw [e.lines_eq] at ht
    rcases List.mem_cons.1 ht with rfl | ht
    · obtain ⟨c, r, hfirst, -⟩ := e.first_opens
      rw [hfirst] at hmark
      simp at hmark
    · have hsolid := e.not_solid_of_mem_lines ht
      cases t with
      | nil => simp at hmark
      | cons c r =>
        obtain rfl : c = '=' := by simpa using hmark
        have hmarked : Text.startsSolid ('=' :: r) = true := rfl
        rw [hmarked] at hsolid
        simp at hsolid
  intro l hl
  have hl' := Line.forall_text_written (fun t ht => e.isLine_of_mem_lines ht) hhead l hl
  exact Section.continues_of_none (Header.ofText?_eq_none hl' l.start) depth

/-! ## The blocks -/

namespace WrittenSection

/-- The blocks of some examples. -/
def blocks (title : Text) (fileId index offset : Nat) (parts : List (WrittenExample × List Text)) :
    List Block :=
  (located index offset parts).map fun p => p.1.toBlock title fileId p.2.1 p.2.2

/-- The lines of an example and of the prose after it, cut where the block ends and where the prose
is not blank any more. -/
theorem written_partLines_cons (e : WrittenExample) (after : List Text)
    (parts : List (WrittenExample × List Text)) (offset : Nat) :
    Line.written offset (partLines ((e, after) :: parts)) =
      e.firstLine offset :: (e.moreLines offset ++
        Line.written (offset + Text.bytes e.text) (after.takeWhile Text.isBlank) ++
        (Line.written (offset + Text.bytes e.text +
            Text.bytes (Text.unlines (after.takeWhile Text.isBlank)))
          (after.dropWhile Text.isBlank) ++
        Line.written (offset + Text.bytes e.text + Text.bytes (Text.unlines after))
          (partLines parts))) := by
  have hparts : partLines ((e, after) :: parts) = e.lines ++ (after ++ partLines parts) := by
    simp [partLines]
  have hsplit : Line.written (offset + Text.bytes e.text) after =
      Line.written (offset + Text.bytes e.text) (after.takeWhile Text.isBlank) ++
        Line.written (offset + Text.bytes e.text +
          Text.bytes (Text.unlines (after.takeWhile Text.isBlank)))
          (after.dropWhile Text.isBlank) := by
    rw [← Line.written_append, List.takeWhile_append_dropWhile]
  rw [hparts, Line.written_append, e.written_lines, Line.written_append, ← WrittenExample.text,
    hsplit]
  simp only [List.cons_append, List.append_assoc]

/-- **The lines of some examples split into the blocks of these examples.**  The induction is on the
examples; the prose after one falls into the blank lines that its block leaves out and lines that
the block does not reach, and these start with the one that closes it. -/
theorem splits_partLines {depth : Nat} {parts : List (WrittenExample × List Text)}
    (hprose : ∀ p ∈ parts, ∀ t ∈ p.2, IsProse depth t)
    (hseparated : ∀ p ∈ parts.dropLast, ∃ t ∈ p.2, t.isBlank = false) (title : Text)
    (fileId index offset : Nat) :
    Splits title fileId index (Line.written offset (partLines parts))
      (blocks title fileId index offset parts) := by
  induction parts generalizing index offset with
  | nil => exact .done
  | cons p parts ih =>
    obtain ⟨e, after⟩ := p
    rw [List.forall_mem_cons] at hprose
    have hrest : Splits title fileId (index + 1)
        (Line.written (offset + Text.bytes e.text + Text.bytes (Text.unlines after))
          (partLines parts))
        (blocks title fileId (index + 1)
          (offset + Text.bytes e.text + Text.bytes (Text.unlines after)) parts) := by
      refine ih hprose.2 (fun p hp => hseparated p ?_) _ _
      have hne : parts ≠ [] := fun he => by simp [he] at hp
      rw [List.dropLast_cons_of_ne_nil hne]
      exact List.mem_cons_of_mem _ hp
    have hafter : (∃ t ∈ after, t.isBlank = false) ∨
        Line.written (offset + Text.bytes e.text + Text.bytes (Text.unlines after))
          (partLines parts) = [] := by
      by_cases hne : parts = []
      · subst hne
        exact .inr rfl
      · exact .inl (hseparated (e, after) (by rw [List.dropLast_cons_of_ne_nil hne]; simp))
    rw [written_partLines_cons, blocks, located, List.map_cons, ← e.ofLines_eq_toBlock title]
    refine .block (e.blockRun offset ?_ ?_) (.pass_append ?_ hrest)
    · exact fun l hl => IsProse.blank_takeWhile hprose.1 hl
    · exact fun l hl => IsProse.closes_dropWhile hprose.1 hafter hl
    · exact fun l hl => IsProse.not_opens
        (fun t ht => hprose.1 t ((List.dropWhile_sublist _).mem ht)) hl

/-! ## The section -/

variable (w : WrittenSection)

/-- The section as it is found in a document of its own. -/
def toSection (fileId : Nat) : Section :=
  ⟨w.name, w.depth, ⟨0, Text.bytes w.header⟩, Text.unlines w.body,
    Text.bytes (Text.unlines [w.header]), fileId⟩

/-- No line of the body holds a line feed. -/
theorem newline_not_mem_body : ∀ t ∈ w.body, '\n' ∉ t := by
  intro t ht
  rcases List.mem_append.1 ht with ht | ht
  · exact (w.before_prose t ht).isLine.1
  · obtain ⟨p, hp, ht⟩ := List.mem_flatMap.1 ht
    rcases List.mem_append.1 ht with ht | ht
    · exact (p.1.isLine_of_mem_lines ht).1
    · exact (w.after_prose p hp t ht).isLine.1

theorem newline_not_mem_header : '\n' ∉ w.header := by
  simp only [header, Header.writtenText, List.mem_append, List.mem_replicate, List.mem_cons, not_or]
  exact ⟨by simp, by decide, w.name_one_line⟩

/-- The header ends as its name does, so no terminator is taken off it. -/
theorem getLast?_header : ∀ c ∈ w.header.getLast?, Text.isTerminator c = false := by
  intro c hc
  refine Text.isTerminator_of_not_blank (w.name_end c ?_)
  rcases List.eq_nil_or_concat w.name with hname | ⟨init, d, hname⟩
  · exact absurd hname w.name_ne_nil
  · rw [List.concat_eq_append] at hname
    rw [header, Header.writtenText, hname, ← List.cons_append, ← List.append_assoc,
      List.getLast?_concat] at hc
    rw [hname, List.getLast?_concat]
    exact hc

/-- The line of the header is read as the header that was written. -/
theorem ofLine?_header :
    Header.ofLine? ⟨0, w.header ++ ['\n']⟩ =
      some ⟨w.depth, w.name, ⟨0, Text.bytes w.header⟩⟩ := by
  rw [Header.ofLine?, Line.text_of_raw_eq rfl w.getLast?_header, header,
    Header.ofText?_written w.depth_pos w.name_end, Nat.zero_add]

/-- **No line of the body ends the section.** -/
theorem continues_body (offset : Nat) :
    ∀ l ∈ Line.written offset w.body, Section.continues w.depth l = true := by
  have hparts : ∀ parts : List (WrittenExample × List Text),
      (∀ p ∈ parts, ∀ t ∈ p.2, IsProse w.depth t) → ∀ offset,
        ∀ l ∈ Line.written offset (partLines parts), Section.continues w.depth l = true := by
    intro parts
    induction parts with
    | nil => simp [partLines]
    | cons p parts ih =>
      intro hprose offset l hl
      rw [List.forall_mem_cons] at hprose
      rw [partLines, List.flatMap_cons, Line.written_append, Line.written_append] at hl
      rcases List.mem_append.1 hl with hl | hl
      · rcases List.mem_append.1 hl with hl | hl
        · exact p.1.continues _ _ l hl
        · exact IsProse.continues hprose.1 hl
      · exact ih hprose.2 _ l hl
  intro l hl
  rw [body, Line.written_append] at hl
  rcases List.mem_append.1 hl with hl | hl
  · exact IsProse.continues w.before_prose hl
  · exact hparts w.parts w.after_prose _ l hl

/-- The section is found in its lines. -/
theorem find?_written (fileId : Nat) :
    Section.find? fileId w.name (Line.written 0 (w.header :: w.body)) =
      some (w.toSection fileId) := by
  rw [Line.written_cons, Section.find?, w.ofLine?_header]
  simp only
  rw [if_pos ⟨w.name_ne_nil, trivial⟩, Section.opened,
    List.takeWhile_eq_self_iff.2 (w.continues_body _), Line.join_written]
  simp [toSection, Line.stop]

/-- **The blocks of the section are those of its examples.** -/
theorem blocks_toSection (fileId : Nat) :
    (w.toSection fileId).blocks =
      blocks w.name fileId 0 (Text.bytes (Text.unlines (w.header :: w.before))) w.parts := by
  have hlines : (w.toSection fileId).lines =
      Line.written (Text.bytes (Text.unlines [w.header])) w.before ++
        Line.written (Text.bytes (Text.unlines (w.header :: w.before))) (partLines w.parts) := by
    have hbytes : Text.bytes (Text.unlines (w.header :: w.before)) =
        Text.bytes (Text.unlines [w.header]) + Text.bytes (Text.unlines w.before) := by
      rw [← Text.bytes_append, ← Text.unlines_append, List.singleton_append]
    rw [hbytes, ← Line.written_append]
    exact Line.ofText_unlines _ w.newline_not_mem_body
  have hsplits : Splits w.name fileId 0 (w.toSection fileId).lines
      (blocks w.name fileId 0 (Text.bytes (Text.unlines (w.header :: w.before))) w.parts) := by
    rw [hlines]
    exact .pass_append (fun l hl => IsProse.not_opens w.before_prose hl)
      (splits_partLines w.after_prose w.separated _ _ _ _)
  exact (splits_iff.1 hsplits).symm

/-- The blocks of examples are read as these examples, one after the other. -/
theorem mapM_ofBlock_blocks (title : Text) (fileId index offset : Nat)
    (parts : List (WrittenExample × List Text)) :
    (blocks title fileId index offset parts).mapM Example.ofBlock =
      .ok ((located index offset parts).map fun p => p.1.toExample p.2.1 p.2.2) := by
  rw [blocks]
  induction located index offset parts with
  | nil => rfl
  | cons p ps ih =>
    rw [List.map_cons, List.mapM_cons, p.1.ofBlock_toBlock, ih]
    rfl

/-- A text that starts with a mark has no byte-order mark before it. -/
theorem source_ofText (path : Path) : (Document.ofText path w.text).source = w.text := by
  obtain ⟨n, hn⟩ : ∃ n, w.depth = n + 1 := ⟨w.depth - 1, by have := w.depth_pos; omega⟩
  have hmark : w.text = '=' :: (Text.unlines (w.header :: w.body)).tail := by
    rw [text, header, Header.writtenText, hn, List.replicate_succ, Text.unlines_cons]
    rfl
  rw [Document.ofText, hmark]
  rfl

/-- **Reading undoes writing.**  The document that holds the written section, and nothing else, has
under the section's name exactly the examples that were written: as many, in the same order and
numbered from 0, each with its code, its claimed output, its form and the span of its block. -/
theorem examples_ofText (path : Path) (fileId : Nat) :
    ((Document.ofText path w.text).withFileId fileId).examples w.name = .ok w.examples := by
  have hlines : ((Document.ofText path w.text).withFileId fileId).lines =
      Line.written 0 (w.header :: w.body) := by
    rw [Document.lines, Document.withFileId, w.source_ofText]
    exact Line.ofText_unlines 0
      (List.forall_mem_cons.2 ⟨w.newline_not_mem_header, w.newline_not_mem_body⟩)
  have hfound : ((Document.ofText path w.text).withFileId fileId).findSection w.name =
      .ok (w.toSection fileId) := by
    rw [Document.findSection_eq_ok_iff, hlines]
    exact w.find?_written fileId
  rw [Document.examples, hfound]
  have hread := mapM_ofBlock_blocks w.name fileId 0
    (Text.bytes (Text.unlines (w.header :: w.before))) w.parts
  rw [← w.blocks_toSection] at hread
  exact hread

/-- A line that does not start with a marker is no marker with white space after it. -/
theorem not_marker_of_afterStart?_eq_none {marker t : Text}
    (h : Text.afterStart? marker t = none) :
    ¬ ∃ r, t = marker ++ r ∧ Text.isBlank r = true := by
  rintro ⟨r, hr, -⟩
  rw [Text.afterStart?_eq_some_iff.2 hr] at h
  simp at h

/-- An example in the inline form. -/
def inlineSum : WrittenExample where
  first := "  1 + 1 # => 2".toList
  more := []
  output := none
  isLine := by simp [Text.IsLine]
  first_opens := ⟨'1', " + 1 # => 2".toList, rfl, rfl⟩
  more_indented := by simp
  code_not_separator :=
    List.forall_mem_singleton.2 (not_marker_of_afterStart?_eq_none (by decide))
  code_not_shell := by decide
  output_not_separator := by simp
  last_not_blank := by decide

/-- An example in the split form, with a blank line and an indented one in its output. -/
def splitSum : WrittenExample where
  first := "  puts 1 + 1".toList
  more := []
  output := some ["2".toList, [], "  3".toList]
  isLine := by simp [Text.IsLine]
  first_opens := ⟨'p', "uts 1 + 1".toList, rfl, rfl⟩
  more_indented := by simp
  code_not_separator :=
    List.forall_mem_singleton.2 (not_marker_of_afterStart?_eq_none (by decide))
  code_not_shell := by decide
  output_not_separator := by
    have hmarker : ∀ t ∈ ["2".toList, [], "  3".toList],
        Text.afterStart? "#### output:".toList t = none := by decide
    exact fun t ht => not_marker_of_afterStart?_eq_none (hmarker t ht)
  last_not_blank := by decide

theorem isProse_or : IsProse 1 "or".toList where
  isLine := ⟨by decide, by decide⟩
  blank_or_solid := .inr ⟨'o', ['r'], rfl, rfl⟩
  deeper offset h hh := by
    rw [Header.ofText?_eq_none (by decide)] at hh
    simp at hh

/-- A section with an example in each form and a line of prose between them. -/
def sums : WrittenSection where
  depth := 1
  name := "Sums".toList
  before := []
  parts := [(inlineSum, ["or".toList]), (splitSum, [])]
  depth_pos := le_rfl
  name_ne_nil := by decide
  name_one_line := by decide
  name_end := by
    intro c hc
    obtain rfl : 's' = c := by simpa using hc
    decide
  before_prose := by simp
  after_prose :=
    List.forall_mem_cons.2 ⟨List.forall_mem_singleton.2 isProse_or, by simp⟩
  separated := List.forall_mem_singleton.2 ⟨"or".toList, List.mem_cons_self, rfl⟩

/-- The conditions on a written section can be met. -/
theorem examples_ofText_sums :
    ((Document.ofText (.ofText "sums".toList) sums.text).withFileId 0).examples "Sums".toList =
      .ok [⟨0, "  1 + 1 # => 2\n".toList, "2".toList, .inline, ⟨7, 22⟩⟩,
        ⟨1, "  puts 1 + 1\n".toList, "2\n\n  3".toList, .split, ⟨25, 66⟩⟩] := by
  have hread := sums.examples_ofText (.ofText "sums".toList) 0
  have hwritten : sums.examples = [⟨0, "  1 + 1 # => 2\n".toList, "2".toList, .inline, ⟨7, 22⟩⟩,
      ⟨1, "  puts 1 + 1\n".toList, "2\n\n  3".toList, .split, ⟨25, 66⟩⟩] := by decide
  rw [hwritten] at hread
  exact hread

end WrittenSection
end Doctest
