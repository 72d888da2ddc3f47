/-
# Writing an example down

| lines | inline form | split form |
| --- | --- | --- |
| code | as they are | as they are |
| separator | none | `  #### output:` |
| output | none | each after two spaces |

The claimed output of the inline form is written in the code.  A block with these lines is read as
the example that was written (`ofBlock_toBlock`).
-/

import Doctest.Proofs.Example.Grammar
import Doctest.Proofs.Example.Reading

namespace Doctest

/-- An example as its author writes it: the lines of its code and, in the split form, those of its
output.  The conditions say that no line can be taken for a line of another kind and that the last
line of the block is not blank. -/
structure WrittenExample where
  /-- The first line of the code. -/
  first : Text
  /-- The other lines of the code. -/
  more : List Text
  /-- The lines of the output, in the split form. -/
  output : Option (List Text)
  isLine : ∀ t ∈ first :: more ++ output.getD [], t.IsLine
  first_opens : ∃ c t, first = ' ' :: ' ' :: c :: t ∧ Text.isBlankChar c = false
  more_indented : ∀ t ∈ more, t.isBlank = true ∨ ∃ c r, t = c :: r ∧ Text.isBlankChar c = true
  code_not_separator : ∀ t ∈ first :: more,
    ¬ ∃ r, t = "  #### output:".toList ++ r ∧ Text.isBlank r = true
  code_not_shell : ∀ t ∈ first :: more, t.find? (!Text.isBlankChar ·) ≠ some '%'
  output_not_separator : ∀ t ∈ output.getD [],
    ¬ ∃ r, t = "#### output:".toList ++ r ∧ Text.isBlank r = true
  last_not_blank : ∀ t ∈ (output.getD (first :: more)).getLast?, t.isBlank = false

namespace WrittenExample

variable (e : WrittenExample)

/-- The lines of the code. -/
def code : List Text := e.first :: e.more

/-- The lines of the output as they stand in the block, after their separator. -/
def outputLines : List Text :=
  match e.output with
  | none => []
  | some ls => "  #### output:".toList :: ls.map ("  ".toList ++ ·)

/-- The lines of the block. -/
def lines : List Text := e.code ++ e.outputLines

/-- The text of the block. -/
def text : Text := Text.unlines e.lines

/-- The form that the example is written in. -/
def form : ExampleForm := if e.output.isSome then .split else .inline

/-- The claimed output: the lines of output, or what follows the markers in the code. -/
def expected : Text :=
  Text.join ['\n'] (e.output.getD (e.code.filterMap (Text.afterFirst? "# => ".toList)))

/-- The example that was written, when its block has the index and starts at the offset. -/
def toExample (index offset : Nat) : Example :=
  ⟨index, Text.unlines e.code, e.expected, e.form, ⟨offset, offset + Text.bytes e.text⟩⟩

/-- The block that the example is written as. -/
def toBlock (title : Text) (fileId index offset : Nat) : Block :=
  ⟨index, title, e.text, ⟨offset, offset + Text.bytes e.text⟩, fileId⟩

theorem lines_eq : e.lines = e.first :: (e.more ++ e.outputLines) := rfl

/-- A line after the separator is a line of output after two spaces. -/
theorem mem_outputLines_iff {t : Text} :
    t ∈ e.outputLines ↔ ∃ ls, e.output = some ls ∧
      (t = "  #### output:".toList ∨ ∃ u ∈ ls, t = "  ".toList ++ u) := by
  unfold outputLines
  cases e.output with
  | none => simp
  | some ls => simp [eq_comm]

theorem isLine_of_mem_code {t : Text} (ht : t ∈ e.code) : t.IsLine :=
  e.isLine t (List.mem_append_left _ ht)

/-- A line of output can be written with its two spaces. -/
theorem isLine_indent {t : Text} (h : t.IsLine) : Text.IsLine ("  ".toList ++ t) :=
  ⟨by simpa using h.1, by simpa using h.2⟩

/-- Lines of output can all be written with their two spaces. -/
theorem isLine_map_indent {ls : List Text} (h : ∀ t ∈ ls, t.IsLine) :
    ∀ t ∈ ls.map ("  ".toList ++ ·), Text.IsLine t :=
  List.forall_mem_map.2 fun t ht => isLine_indent (h t ht)

theorem isLine_output {ls : List Text} (ho : e.output = some ls) : ∀ t ∈ ls, t.IsLine := fun t ht =>
  e.isLine t (List.mem_append_right _ (by rw [ho]; exact ht))

/-- The separator can be written as a line. -/
theorem isLine_separator : Text.IsLine "  #### output:".toList := ⟨by decide, by decide⟩

/-- Every line of the block can be written as one. -/
theorem isLine_of_mem_lines {t : Text} (ht : t ∈ e.lines) : t.IsLine := by
  rcases List.mem_append.1 ht with ht | ht
  · exact e.isLine_of_mem_code ht
  · obtain ⟨ls, hls, rfl | ⟨u, hu, rfl⟩⟩ := e.mem_outputLines_iff.1 ht
    · exact isLine_separator
    · exact isLine_indent (e.isLine_output hls u hu)

/-- Every line of the block but the first is indented or blank, so none closes the block. -/
theorem not_solid_of_mem_lines {t : Text} (ht : t ∈ e.more ++ e.outputLines) :
    t.startsSolid = false := by
  rcases List.mem_append.1 ht with ht | ht
  · rcases e.more_indented t ht with hb | ⟨c, r, rfl, hc⟩
    · cases t with
      | nil => rfl
      | cons c r => simp [Text.startsSolid, Text.isBlank_iff.1 hb c List.mem_cons_self]
    · simp [Text.startsSolid, hc]
  · obtain ⟨ls, hls, rfl | ⟨u, hu, rfl⟩⟩ := e.mem_outputLines_iff.1 ht
    · rfl
    · rfl

/-- The last line of the block is not blank. -/
theorem not_blank_getLast_lines : ∀ t ∈ e.lines.getLast?, t.isBlank = false := by
  intro t ht
  cases ho : e.output with
  | none =>
    have hlines : e.lines = e.first :: e.more := by simp [lines, outputLines, code, ho]
    rw [hlines] at ht
    exact e.last_not_blank t (by rw [ho]; exact ht)
  | some ls =>
    have hlines : e.lines = e.code ++ ["  #### output:".toList] ++ ls.map ("  ".toList ++ ·) := by
      simp [lines, outputLines, ho]
    rw [hlines, List.getLast?_append] at ht
    cases hl : ls.getLast? with
    | none =>
      rw [List.getLast?_map, hl, List.getLast?_append] at ht
      obtain rfl : "  #### output:".toList = t := by simpa using ht
      rfl
    | some u =>
      rw [List.getLast?_map, hl] at ht
      obtain rfl : "  ".toList ++ u = t := by simpa using ht
      have hu := e.last_not_blank u (by rw [ho]; exact hl)
      rw [← Bool.not_eq_true, Text.isBlank_iff] at hu ⊢
      exact fun h => hu fun c hc => h c (List.mem_append_right _ hc)

/-! ## The block among the lines of a section -/

/-- The first line of the block, when the block starts at the offset. -/
def firstLine (offset : Nat) : Line := ⟨offset, e.first ++ ['\n']⟩

/-- The lines of the block after the first. -/
def moreLines (offset : Nat) : List Line :=
  Line.written (offset + Text.bytes (Text.unlines [e.first])) (e.more ++ e.outputLines)

theorem written_lines (offset : Nat) :
    Line.written offset e.lines = e.firstLine offset :: e.moreLines offset :=
  Line.written_cons _ _ _

/-- **The lines of a written example are the lines of a block**, wherever they stand. -/
theorem blockRun (offset : Nat) {blank rest : List Line} (hblank : ∀ l ∈ blank, l.Blank)
    (hrest : ∀ l ∈ rest.head?, l.Closes) :
    BlockRun (e.firstLine offset) (e.moreLines offset) blank rest where
  opens := by
    obtain ⟨c, t, hfirst, hc⟩ := e.first_opens
    have htext : (e.firstLine offset).text = e.first :=
      Line.text_of_raw_eq rfl (e.isLine_of_mem_code List.mem_cons_self).getLast?
    exact ⟨c, t, htext.trans hfirst, hc⟩
  not_closes l hl := by
    rcases List.mem_append.1 hl with hl | hl
    · have hline : ∀ t ∈ e.more ++ e.outputLines, t.IsLine := fun t ht =>
        e.isLine_of_mem_lines (e.lines_eq ▸ List.mem_cons_of_mem _ ht)
      have hsolid := Line.forall_text_written hline (fun t ht => e.not_solid_of_mem_lines ht) l hl
      rw [← Line.closesBlock_iff, Line.closesBlock, hsolid]
      exact Bool.false_ne_true
    · exact (hblank l hl).not_closes
  last_not_blank l hl := by
    rw [← e.written_lines] at hl
    have ht : l.text ∈ e.lines.getLast? := by
      rw [← Line.map_text_written offset fun t ht => e.isLine_of_mem_lines ht,
        List.getLast?_map, Option.mem_def.1 hl]
      rfl
    rw [← Line.isBlank_iff, Line.isBlank, e.not_blank_getLast_lines _ ht]
    exact Bool.false_ne_true
  blank := hblank
  closes := hrest

/-- The block that these lines make up. -/
theorem ofLines_eq_toBlock (title : Text) (fileId index offset : Nat) :
    Block.ofLines title fileId index (e.firstLine offset) (e.moreLines offset) =
      e.toBlock title fileId index offset := by
  rw [Block.ofLines, ← e.written_lines, Line.join_written]
  rfl

/-! ## Reading the block -/

/-- Texts that are no separators make lines that are none. -/
theorem isSeparator_written (offset : Nat) {ls : List Text} (hls : ∀ t ∈ ls, t.IsLine)
    (h : ∀ t ∈ ls, ¬ ∃ r, t = "  #### output:".toList ++ r ∧ Text.isBlank r = true) :
    ∀ l ∈ Line.written offset ls, Example.isSeparator l = false := by
  intro l hl
  rw [← Bool.not_eq_true, Example.isSeparator_iff]
  exact Line.forall_text_written hls h l hl

/-- No line of the code is a separator. -/
theorem isSeparator_code (offset : Nat) :
    ∀ l ∈ Line.written offset e.code, Example.isSeparator l = false :=
  isSeparator_written offset (fun _ ht => e.isLine_of_mem_code ht) e.code_not_separator

/-- No line of the output is a separator. -/
theorem isSeparator_output (offset : Nat) {ls : List Text} (ho : e.output = some ls) :
    ∀ l ∈ Line.written offset (ls.map ("  ".toList ++ ·)), Example.isSeparator l = false := by
  refine isSeparator_written offset (isLine_map_indent (e.isLine_output ho))
    (List.forall_mem_map.2 fun u hu => ?_)
  rintro ⟨r, hr, hblank⟩
  have hindent : "  ".toList ++ u = "  ".toList ++ ("#### output:".toList ++ r) := hr
  exact e.output_not_separator u (by rw [ho]; exact hu)
    ⟨r, List.append_cancel_left hindent, hblank⟩

/-- No line of the code shows a shell command. -/
theorem isShellLine_code (offset : Nat) :
    ∀ l ∈ Line.written offset e.code, Example.isShellLine l = false := by
  intro l hl
  obtain ⟨t, ht, hraw⟩ := Line.exists_of_mem_written hl
  have hend : ['\n'].find? (!Text.isBlankChar ·) = none := by decide
  rw [← Bool.not_eq_true, Example.isShellLine_iff, hraw, List.find?_append, hend, Option.or_none]
  exact e.code_not_shell t ht

/-- The code holds more than white space. -/
theorem isBlank_code : Text.isBlank (Text.unlines e.code) = false := by
  obtain ⟨c, t, hfirst, hc⟩ := e.first_opens
  rw [← Bool.not_eq_true, Text.isBlank_iff]
  intro h
  have := h c (by simp [code, hfirst])
  rw [this] at hc
  simp at hc

/-- The code of a written example is what is run. -/
theorem ofParts_code (b : Block) (offset : Nat) (expected : Text) (form : ExampleForm) :
    Example.ofParts b (Line.written offset e.code) expected form =
      .ok ⟨b.index, Text.unlines e.code, expected, form, b.span⟩ := by
  refine Example.ofParts_eq_ok_iff.2 ⟨?_, ?_⟩
  · rw [Line.join_written, e.isBlank_code]
  · rw [Example.runnable_eq_join (e.isShellLine_code offset), Line.join_written]

/-- What stands after the markers is read. -/
theorem inlineExpected_written (offset : Nat) {ls : List Text} (hls : ∀ t ∈ ls, t.IsLine) :
    Example.inlineExpected (Line.written offset ls) =
      Text.join ['\n'] (ls.filterMap (Text.afterFirst? "# => ".toList)) := by
  conv => rhs; rw [← Line.map_text_written offset hls, List.filterMap_map]
  rfl

/-- Lines of output are read without the two spaces. -/
theorem splitExpected_written (offset : Nat) {ls : List Text} (hls : ∀ t ∈ ls, t.IsLine) :
    Example.splitExpected (Line.written offset (ls.map ("  ".toList ++ ·))) =
      Text.join ['\n'] ls := by
  have hunindent : Example.unindent ∘ ("  ".toList ++ ·) = id := by
    funext t
    have : Text.afterStart? indent ("  ".toList ++ t) = some t := Text.afterStart?_eq_some_iff.2 rfl
    simp only [Function.comp, Example.unindent, this]
    rfl
  have hlines : (Line.written offset (ls.map ("  ".toList ++ ·))).map
      (fun l => Example.unindent l.text) = ls := by
    have := congrArg (List.map Example.unindent)
      (Line.map_text_written offset (isLine_map_indent hls))
    rwa [List.map_map, List.map_map, hunindent, List.map_id] at this
  rw [Example.splitExpected, hlines]

/-- **A block is read as the example that it was written for.** -/
theorem ofBlock_toBlock (title : Text) (fileId index offset : Nat) :
    Example.ofBlock (e.toBlock title fileId index offset) = .ok (e.toExample index offset) := by
  have hlines : Line.ofText offset e.text = Line.written offset e.lines :=
    Line.ofText_unlines offset fun t ht => (e.isLine_of_mem_lines ht).1
  cases ho : e.output with
  | none =>
    have hcode : e.lines = e.code := by simp [lines, outputLines, ho]
    rw [hcode] at hlines
    have hread := Example.ofBlock_of_no_separator (b := e.toBlock title fileId index offset)
      (by rw [toBlock, hlines]; exact e.isSeparator_code offset)
    rw [hread]
    simp only [toBlock, hlines]
    rw [e.ofParts_code, inlineExpected_written offset fun t ht => e.isLine_of_mem_code ht]
    simp [toExample, expected, form, ho]
  | some ls =>
    have houtput : e.lines = e.code ++ ("  #### output:".toList :: ls.map ("  ".toList ++ ·)) := by
      simp [lines, outputLines, ho]
    have hseparator : Example.isSeparator
        ⟨offset + Text.bytes (Text.unlines e.code), "  #### output:".toList ++ ['\n']⟩ = true :=
      Example.isSeparator_iff.2 ⟨[], Line.text_of_raw_eq rfl isLine_separator.getLast?, rfl⟩
    rw [houtput, Line.written_append, Line.written_cons] at hlines
    rw [Example.ofBlock_of_separator (b := e.toBlock title fileId index offset) hlines
      (e.isSeparator_code offset) hseparator (e.isSeparator_output _ ho),
      splitExpected_written _ (e.isLine_output ho), e.ofParts_code]
    simp [toExample, toBlock, expected, form, ho]

end WrittenExample
end Doctest
