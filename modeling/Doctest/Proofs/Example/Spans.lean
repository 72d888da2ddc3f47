/-
# Where sections and blocks stand in the source

Offsets are counted from the start of the document, of a section's body or of a block.  Whatever is
cut out at such offsets starts and stops with a line, or stops where the text of a line stops:

| cut | from | to |
| --- | --- | --- |
| header | its line's start | the stop of that line's text |
| body | the stop of the header's line | a line's start, or the end of the source |
| block | a line's start | a line's stop |
| code, output | the block's start, a separator's stop | the separator's start, the block's stop |

So all of them fall between characters.  A block is a run of lines of the document
(`Document.exists_lines_block`), hence its line number is one more than the number of lines before
that run, and the source sliced at any of the spans is the text that stands there
(`Document.spans_cut_source`).
-/

import Doctest.Proofs.Example.Nesting
import Doctest.Proofs.Text.Occurrence

namespace Doctest

/-! ## A block as a run of lines -/

/-- The lines of a block, at their offsets in the document. -/
def Block.lines (b : Block) : List Line := Line.ofText b.span.start b.text

@[simp] theorem Block.join_lines (b : Block) : Line.join b.lines = b.text := Line.join_ofText _ _

/-- **Every block is a run of the lines**, from the one that opens it on and with none that closes
it. -/
theorem Splits.exists_lines {title : Text} {fileId index : Nat} {ls : List Line} {bs : List Block}
    (h : Splits title fileId index ls bs) :
    ∀ b ∈ bs, ∃ before first more after, ls = before ++ (first :: more) ++ after ∧
      b = Block.ofLines title fileId b.index first more ∧ first.Opens ∧ ∀ l ∈ more, ¬ l.Closes := by
  induction h with
  | done => simp
  | @pass _ l ls bs _ _ ih =>
    intro b hb
    obtain ⟨before, first, more, after, hls, hb⟩ := ih b hb
    exact ⟨l :: before, first, more, after, by simp [hls], hb⟩
  | @block index first more blank rest bs hrun _ ih =>
    intro b hb
    rcases List.mem_cons.1 hb with rfl | hb
    · exact ⟨[], first, more, blank ++ rest, by simp, rfl, hrun.opens, fun l hl =>
        hrun.not_closes l (List.mem_append_left _ hl)⟩
    · obtain ⟨before, first', more', after, hrest, hb⟩ := ih b hb
      exact ⟨first :: (more ++ blank ++ before), first', more', after, by simp [hrest], hb⟩

/-- The run is the lines of the block, and the block stands where the run does. -/
theorem Line.CutAt.lines_ofLines {offset : Nat} {before more after : List Line} {first : Line}
    (h : CutAt offset (before ++ (first :: more) ++ after)) (title : Text) (fileId index : Nat) :
    (Block.ofLines title fileId index first more).lines = first :: more ∧
      first.start = offset + Text.bytes (join before) := by
  have hmine := h.middle
  have hstart : first.start = offset + Text.bytes (join before) := (cutAt_iff.1 hmine).1.1
  rw [← hstart] at hmine
  exact ⟨hmine, hstart⟩

namespace Section

variable (s : Section)

theorem cutAt_lines : Line.CutAt s.bodyOffset s.lines := Line.cutAt_ofText _ _

@[simp] theorem join_lines : Line.join s.lines = s.body := Line.join_ofText _ _

variable {s}

/-- A block of a section is a run of the section's lines. -/
theorem exists_lines_block {b : Block} (hb : b ∈ s.blocks) :
    ∃ before first more after, s.lines = before ++ b.lines ++ after ∧ b.lines = first :: more ∧
      first.start = b.span.start ∧ b.span.start = s.bodyOffset + Text.bytes (Line.join before) ∧
      b.span.stop = b.span.start + Text.bytes b.text := by
  obtain ⟨before, first, more, after, hls, hofLines, -⟩ := s.splits_blocks.exists_lines b hb
  have hcut := s.cutAt_lines
  rw [hls] at hcut
  obtain ⟨hlines, hstart⟩ := hcut.lines_ofLines s.name s.fileId b.index
  have hspan : b.span = ⟨first.start, first.start + Text.bytes b.text⟩ := by rw [hofLines]; rfl
  rw [← hofLines] at hlines
  exact ⟨before, first, more, after, by rw [hls, hlines], hlines, by rw [hspan],
    by rw [hspan, hstart], by rw [hspan]⟩

end Section

namespace Document

variable {d : Document} {name : Text} {s : Section}

theorem cutAt_lines (d : Document) : Line.CutAt 0 d.lines := Line.cutAt_ofText _ _

/-- A line of the document starts past the lines before it. -/
theorem start_of_lines {before after : List Line} {l : Line} (h : d.lines = before ++ l :: after) :
    l.start = Text.bytes (Line.join before) := by
  have hc := d.consecutive_lines
  rw [h] at hc
  simpa using hc.start_eq

/-- **The lines of a section are a run of the document's**, right after the line of its header. -/
theorem exists_lines_section (hs : d.findSection name = .ok s) :
    ∃ before l after h, d.lines = before ++ l :: (s.lines ++ after) ∧
      Header.ofLine? l = some h ∧ s.headerSpan = h.span ∧ s.bodyOffset = l.stop := by
  obtain ⟨before, l, after, h, hls, hh, -, -, -, rfl⟩ :=
    Section.find?_eq_some_iff.1 (findSection_eq_ok_iff.1 hs)
  have hcut := d.cutAt_lines
  rw [hls] at hcut
  refine ⟨before, l, after.dropWhile (Section.continues h.depth), h, ?_, hh, rfl, rfl⟩
  rw [hls, Section.lines_opened hcut, List.takeWhile_append_dropWhile]

/-- **A block of a section is a run of the document's lines.** -/
theorem exists_lines_block (hs : d.findSection name = .ok s) {b : Block} (hb : b ∈ s.blocks) :
    ∃ before after, d.lines = before ++ b.lines ++ after ∧
      b.span.start = Text.bytes (Line.join before) ∧
      b.span.stop = Text.bytes (Line.join before) + Text.bytes b.text := by
  obtain ⟨before, l, after, h, hls, -, -, hoffset⟩ := exists_lines_section hs
  obtain ⟨before', first, more, after', hlines, -, -, hstart, hstop⟩ :=
    Section.exists_lines_block hb
  have hl := start_of_lines hls
  refine ⟨before ++ l :: before', after' ++ after, by simp [hls, hlines], ?_, ?_⟩ <;>
    simp only [hstop, hstart, hoffset, Line.stop_eq hl, Line.join_append, Line.join_cons,
      Text.bytes_append, Nat.add_assoc]

/-- A run of lines of the document is a slice of its source. -/
theorem slice?_of_lines {before mine after : List Line} (h : d.lines = before ++ mine ++ after) :
    d.slice? ⟨Text.bytes (Line.join before),
      Text.bytes (Line.join before) + Text.bytes (Line.join mine)⟩ = some (Line.join mine) := by
  rw [slice?, ← d.join_lines, h]
  exact Line.slice?_join before mine after

/-- The text of a line, which leaves out the terminator, is a slice of the source. -/
theorem slice?_text {l : Line} (hl : l ∈ d.lines) :
    d.slice? ⟨l.start, l.start + Text.bytes l.text⟩ = some l.text := by
  obtain ⟨before, after, hls⟩ := List.append_of_mem hl
  obtain ⟨terminator, hraw⟩ := l.text_prefix
  have hstart := start_of_lines hls
  refine Text.slice?_eq_some_iff.2 ⟨Line.join before, terminator ++ Line.join after, ?_, hstart, ?_⟩
  · rw [← d.join_lines, hls, Line.join_append, Line.join_cons, ← hraw]
    simp
  · rw [hstart]

/-- **The number of a line is one more than the number of lines before it.** -/
theorem lineOf?_of_lines {before after : List Line} (h : d.lines = before ++ after)
    (hafter : after ≠ []) :
    d.lineOf? (Text.bytes (Line.join before)) = some (before.length + 1) := by
  have hraw := (Line.cutAt_iff.1 d.cutAt_lines).2
  rw [h, List.map_append] at hraw
  have hcount := hraw.count_newline (by simpa using hafter)
  rw [← List.flatMap_def, List.length_map] at hcount
  have hsource : d.source = Line.join before ++ Line.join after := by
    rw [← d.join_lines, h, Line.join_append]
  have hmin : min (Text.bytes (Line.join before)) (Text.bytes d.source) =
      Text.bytes (Line.join before) := by
    rw [hsource, Text.bytes_append]
    omega
  have htake : Text.takeBytes? d.source (Text.bytes (Line.join before)) =
      some (Line.join before) := Text.takeBytes?_eq_some_iff.2 ⟨_, hsource, rfl⟩
  rw [lineOf?, hmin, htake, Option.map_some]
  exact congrArg (fun n => some (n + 1)) hcount

end Document

/-! ## Cuts inside lines -/

namespace Text

/-- A run of marks has as many bytes as marks. -/
theorem bytes_takeWhile_mark (t : Text) :
    bytes (t.takeWhile (· = '=')) = (t.takeWhile (· = '=')).length := by
  induction t with
  | nil => rfl
  | cons c t ih =>
    by_cases hc : c = '='
    · subst hc
      rw [List.takeWhile_cons_of_pos (by simp), bytes_cons, ih, List.length_cons, Nat.add_comm]
      rfl
    · rw [List.takeWhile_cons_of_neg (by simpa using hc)]
      rfl

end Text

/-- **Cutting a line by its number of marks cuts between characters**, as a mark is one byte, and so
does cutting off the space or tab after the marks of a header. -/
theorem Header.dropBytes?_marks (t : Text) :
    Text.dropBytes? t (t.takeWhile (· = '=')).length = some (t.dropWhile (· = '=')) ∧
      ∀ offset h, ofText? t offset = some h → h.depth = (t.takeWhile (· = '=')).length ∧
        (t.dropWhile (· = '=') = [] ∧ h.name = [] ∨
          ∃ rest, Text.dropBytes? (t.dropWhile (· = '=')) 1 = some rest ∧
            h.name = Text.trimEnd rest) := by
  refine ⟨Text.dropBytes?_eq_some_iff.2 ⟨t.takeWhile (· = '='),
    List.takeWhile_append_dropWhile.symm, Text.bytes_takeWhile_mark t⟩, fun offset h hh => ?_⟩
  unfold ofText? at hh
  simp only at hh
  split at hh
  · simp at hh
  · obtain ⟨name, hname, rfl⟩ := Option.map_eq_some_iff.1 hh
    refine ⟨rfl, ?_⟩
    generalize t.dropWhile (· = '=') = after at hname ⊢
    cases after with
    | nil => exact .inl ⟨rfl, (Option.some.inj hname).symm⟩
    | cons c rest =>
      rw [nameAfter?] at hname
      split at hname
      · rename_i hc
        refine .inr ⟨rest, Text.dropBytes?_eq_some_iff.2 ⟨[c], rfl, ?_⟩,
          (Option.some.inj hname).symm⟩
        have hc : c = ' ' ∨ c = '\t' := by simpa using hc
        rcases hc with rfl | rfl <;> rfl
      · simp at hname

/-! ## All spans at once -/

/-- The block is cut out of the source of the document, and out of the body of the section, at the
places that its span names, and it is cut itself at its lines. -/
structure Block.CutFrom (b : Block) (d : Document) (s : Section) : Prop where
  start_lt_stop : b.span.start < b.span.stop
  inside : s.bodySpan.start ≤ b.span.start ∧ b.span.stop ≤ s.bodySpan.stop
  slice : d.slice? b.span = some b.text
  slice_body : Text.slice? s.body (b.span.start - s.bodyOffset) (b.span.stop - s.bodyOffset) =
    some b.text
  /-- The block starts where a line of the document starts, and has the number of that line. -/
  starts_line : ∃ before first more after, d.lines = before ++ (first :: more) ++ after ∧
    b.lines = first :: more ∧ first.start = b.span.start ∧
    d.lineOf? b.span.start = some (before.length + 1) ∧
    ∀ e, Example.ofBlock b = .ok e → d.lineOf? e.span.start = some (before.length + 1)
  /-- The block stops past a line feed or where the source does. -/
  stops_line : (∃ t, b.text = t ++ ['\n']) ∨ b.span.stop = Text.bytes d.source
  /-- Each line of the block cuts it into the lines before and those after. -/
  slice_lines : ∀ code l output, b.lines = code ++ l :: output →
    Text.slice? b.text 0 (l.start - b.span.start) = some (Line.join code) ∧
      Text.slice? b.text (l.stop - b.span.start) (Text.bytes b.text) = some (Line.join output)
  /-- The text of each line of the block is there in the source, and is cut past its first
  marker. -/
  slice_text : ∀ l ∈ b.lines, d.slice? ⟨l.start, l.start + Text.bytes l.text⟩ = some l.text ∧
    ∀ rest, Text.afterFirst? Example.inlineMarker l.text = some rest → ∃ a,
      l.text = a ++ Example.inlineMarker ++ rest ∧
      Text.dropBytes? l.text (Text.bytes a + Text.bytes Example.inlineMarker) = some rest

/-- The header, the body and the blocks of the section are cut out of the source of the document at
the places that their spans name. -/
structure Section.CutFrom (s : Section) (d : Document) : Prop where
  /-- The header's span holds the text of the header's line; the body starts where that line
  stops. -/
  header : ∃ l ∈ d.lines, (∃ h, Header.ofLine? l = some h) ∧ s.headerSpan.start = l.start ∧
    d.slice? s.headerSpan = some l.text ∧ s.headerSpan.stop ≤ s.bodyOffset ∧ s.bodyOffset = l.stop
  body : d.slice? s.bodySpan = some s.body
  /-- What is left of the body past each line is the lines after it. -/
  unread : ∀ read l unread, s.lines = read ++ l :: unread →
    Text.dropBytes? s.body (l.stop - s.bodyOffset) = some (Line.join unread)
  blocks : ∀ b ∈ s.blocks, b.CutFrom d s
  increasing : s.blocks.Pairwise fun a b => a.span.stop ≤ b.span.start

/-- The lines of a block cut it. -/
theorem Block.slice?_lines {b : Block} {code output : List Line} {l : Line}
    (h : b.lines = code ++ l :: output) :
    Text.slice? b.text 0 (l.start - b.span.start) = some (Line.join code) ∧
      Text.slice? b.text (l.stop - b.span.start) (Text.bytes b.text) = some (Line.join output) := by
  have hc : Line.Consecutive b.span.start b.lines := Line.consecutive_ofText _ _
  rw [h] at hc
  have hstart : l.start = b.span.start + Text.bytes (Line.join code) :=
    (Line.consecutive_append.1 hc).2.1
  have htext : b.text = Line.join code ++ (l.raw ++ Line.join output) := by
    rw [← b.join_lines, h, Line.join_append, Line.join_cons]
  refine ⟨Text.slice?_eq_some_iff.2 ⟨[], l.raw ++ Line.join output, htext, rfl, ?_⟩,
    Text.slice?_eq_some_iff.2 ⟨Line.join code ++ l.raw, [], by simp [htext], ?_, ?_⟩⟩
  · simp [hstart]
  · rw [Line.stop, hstart, Text.bytes_append]
    omega
  · simp only [htext, Text.bytes_append]
    omega

namespace Document

variable {d : Document} {name : Text} {s : Section}

/-- A block of a section of the document is cut out of it. -/
theorem cutFrom_block (hs : d.findSection name = .ok s) {b : Block} (hb : b ∈ s.blocks) :
    b.CutFrom d s := by
  obtain ⟨before, after, hls, hstart, hstop⟩ := exists_lines_block hs hb
  obtain ⟨_, first, more, _, _, hlines, hfirst, -, -⟩ := Section.exists_lines_block hb
  have hne : b.lines ≠ [] := by simp [hlines]
  have hpos : 0 < Text.bytes b.text := by
    refine Text.bytes_pos_iff.2 fun hnil => hne ?_
    rw [Block.lines, hnil]
    rfl
  obtain ⟨hle, hslice⟩ := s.slice?_body hb
  refine ⟨by omega, ⟨hle, ?_⟩, ?_, hslice, ?_, ?_, fun code l output h => Block.slice?_lines h, ?_⟩
  · exact s.bodySpan_stop ▸ s.splits_blocks.stop_le s.consecutive_lines hb
  · have hmine := slice?_of_lines hls
    rw [b.join_lines, ← hstop, ← hstart] at hmine
    exact hmine
  · have hline : d.lineOf? b.span.start = some (before.length + 1) := by
      rw [hstart]
      exact lineOf?_of_lines (by rw [hls, List.append_assoc]) (by simp [hlines])
    refine ⟨before, first, more, after, by rw [hls, hlines], hlines, hfirst, hline, fun e he => ?_⟩
    rw [(Example.index_span_of_ofBlock he).2, hline]
  · by_cases hafter : after = []
    · right
      rw [hstop, ← d.join_lines, hls, hafter, List.append_nil, Line.join_append, b.join_lines,
        Text.bytes_append]
    · left
      have hcut := d.cutAt_lines
      rw [hls, List.append_assoc] at hcut
      rw [← b.join_lines]
      exact hcut.append.2.exists_join_eq hne hafter
  · intro l hl
    refine ⟨slice?_text (by rw [hls]; simp [hl]), fun rest hrest => ?_⟩
    obtain ⟨a, ha, -⟩ := Text.afterFirst?_eq_some_iff.1 hrest
    exact ⟨a, ha, Text.dropBytes?_eq_some_iff.2
      ⟨a ++ Example.inlineMarker, ha, Text.bytes_append _ _⟩⟩

/-- A section of the document is cut out of it. -/
theorem cutFrom_section (hs : d.findSection name = .ok s) : s.CutFrom d := by
  obtain ⟨before, l, after, h, hls, hh, hspan, hoffset⟩ := exists_lines_section hs
  have hl : l ∈ d.lines := by simp [hls]
  have hstart := start_of_lines hls
  have hheader : s.headerSpan = ⟨l.start, l.start + Text.bytes l.text⟩ := by
    rw [hspan, ← Header.stop_of_ofLine? hh, ← Header.start_of_ofLine? hh]
  refine ⟨⟨l, hl, ⟨h, hh⟩, by rw [hheader], by rw [hheader]; exact slice?_text hl, ?_, hoffset⟩,
    ?_, fun read m unread hread => ?_, fun b hb => cutFrom_block hs hb,
    s.splits_blocks.pairwise_span s.consecutive_lines⟩
  · rw [hheader, hoffset]
    exact Nat.add_le_add_left l.bytes_text_le _
  · have hls' : d.lines = before ++ [l] ++ s.lines ++ after := by simp [hls]
    have hbody := slice?_of_lines hls'
    have hbefore : Text.bytes (Line.join (before ++ [l])) = s.bodyOffset := by
      rw [hoffset, Line.stop, hstart, Line.join_append, Text.bytes_append]
      simp
    rw [hbefore, s.join_lines] at hbody
    exact hbody
  · have hc := s.consecutive_lines
    rw [hread] at hc
    have hm : m.stop - s.bodyOffset = Text.bytes (Line.join (read ++ [m])) := by
      rw [Line.stop, hc.start_eq, Line.join_append, Text.bytes_append]
      simp only [Line.join_cons, Line.join_nil, List.append_nil]
      omega
    rw [hm, ← s.join_lines, hread, List.append_cons]
    exact Line.dropBytes?_join _ _

/-- **Every span cuts the source.**  The header, the body and the blocks of a section are slices of
the stored source; the blocks are runs of lines inside the body, not empty, in their order and
without overlap; and each offset that a body, a block or a line is cut at lies between two
characters, or at an end. -/
theorem spans_cut_source (hs : d.findSection name = .ok s) :
    s.CutFrom d ∧ ∀ l ∈ d.lines,
      Text.dropBytes? l.text (l.text.takeWhile (· = '=')).length =
          some (l.text.dropWhile (· = '=')) ∧
        ∀ h, Header.ofLine? l = some h → h.depth = (l.text.takeWhile (· = '=')).length ∧
          (l.text.dropWhile (· = '=') = [] ∧ h.name = [] ∨
            ∃ rest, Text.dropBytes? (l.text.dropWhile (· = '=')) 1 = some rest ∧
              h.name = Text.trimEnd rest) := by
  refine ⟨cutFrom_section hs, fun l _ => ?_⟩
  obtain ⟨hmarks, hname⟩ := Header.dropBytes?_marks l.text
  exact ⟨hmarks, fun h hh => hname l.start h hh⟩

/-- A document with a byte-order mark, terminators of both kinds and characters of several bytes,
whose last block stops at an unterminated line. -/
theorem spans_cut_source_unterminated :
    let d := ofText (.ofText "notes".toList)
      "\ufeffé\n== Ü\r\n  ß # => →\r\n\r\n-\n  €\n\n  ü".toList
    ∃ s, d.findSection "Ü".toList = .ok s ∧ s.CutFrom d ∧
      s.blocks.map Block.span = [⟨10, 25⟩, ⟨29, 40⟩] ∧
      s.blocks.map (fun b => d.lineOf? b.span.start) = [some 3, some 6] := by
  intro d
  have hs : d.findSection "Ü".toList = .ok ⟨"Ü".toList, 2, ⟨3, 8⟩,
      "  ß # => →\r\n\r\n-\n  €\n\n  ü".toList, 10, 0⟩ := by decide +kernel
  exact ⟨_, hs, (spans_cut_source hs).1, by decide +kernel, by decide +kernel⟩

end Document

end Doctest
