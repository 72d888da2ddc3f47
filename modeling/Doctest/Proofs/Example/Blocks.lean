/-
# The blocks of a section

What a caller sees who asks the reader of a section for one block after the other: the blocks of the
grammar in their order, numbered from 0, then nothing for ever (`Section.blocks_follow_grammar`).
The lines of the grammar are the body cut after each line feed.  Each block is a slice of the body,
no two of them share a byte, and no line that opens a block is lost between them.
-/

import Doctest.Proofs.Example.Grammar

namespace Doctest

/-! ## Asking for one block after the other -/

namespace BlockReader

/-- What the reader answers when it is asked for the time number `n`, counted from 0. -/
def answer : BlockReader → Nat → Option Block
  | r, 0 => r.next?.map Prod.fst
  | r, n + 1 => r.advance.answer n

/-- **The answers are the blocks in their order**, and nothing from then on. -/
theorem answer_eq (r : BlockReader) (n : Nat) : r.answer n = r.toList[n]? := by
  induction n generalizing r with
  | zero =>
    rw [answer, toList_eq]
    cases r.next? with
    | none => rfl
    | some p => rfl
  | succ n ih =>
    rw [answer, ih, toList_eq r, advance]
    cases r.next? with
    | none =>
      rw [toList_nil]
      rfl
    | some p => rfl

end BlockReader

/-! ## Where the blocks stand -/

/-- Whether the line lies inside the block. -/
def Block.Covers (b : Block) (l : Line) : Prop := b.span.start ≤ l.start ∧ l.stop ≤ b.span.stop

/-- The lines of a block and the lines after it are consecutive on their own. -/
theorem Line.Consecutive.block {offset : Nat} {first : Line} {more blank rest : List Line}
    (h : Line.Consecutive offset (first :: (more ++ blank ++ rest))) :
    Line.Consecutive offset (first :: more) ∧
      Line.Consecutive (offset + Text.bytes (Line.join (first :: more)) +
        Text.bytes (Line.join blank)) rest := by
  rw [← List.cons_append, ← List.cons_append, Line.consecutive_append, Line.consecutive_append,
    Line.join_append, Text.bytes_append, ← Nat.add_assoc] at h
  exact ⟨h.1.1, h.2⟩

namespace Splits

variable {title : Text} {fileId index offset : Nat} {ls : List Line} {bs : List Block}

/-- The blocks are numbered without a gap. -/
theorem map_index (h : Splits title fileId index ls bs) :
    bs.map Block.index = List.range' index bs.length := by
  induction h with
  | done => rfl
  | pass _ _ ih => exact ih
  | block _ _ ih =>
    rw [List.map_cons, ih, List.length_cons, List.range'_succ]
    rfl

/-- **Every block is a part of the text of the lines**, at the place that its span names. -/
theorem exists_parts (h : Splits title fileId index ls bs) (hc : Line.Consecutive offset ls) :
    ∀ b ∈ bs, ∃ x y, Line.join ls = x ++ b.text ++ y ∧
      b.span = ⟨offset + Text.bytes x, offset + Text.bytes x + Text.bytes b.text⟩ := by
  induction h generalizing offset with
  | done => simp
  | @pass _ l ls bs _ _ ih =>
    intro b hb
    obtain ⟨x, y, hls, hspan⟩ := ih hc.2 b hb
    refine ⟨l.raw ++ x, y, by rw [Line.join_cons, hls]; simp, ?_⟩
    rw [hspan, Line.stop_eq hc.1, Text.bytes_append, Nat.add_assoc offset]
  | @block _ first more blank rest bs _ _ ih =>
    obtain ⟨hfirst, hrest⟩ := hc.block
    intro b hb
    rcases List.mem_cons.1 hb with rfl | hb
    · refine ⟨[], Line.join blank ++ Line.join rest, by simp [Block.ofLines], ?_⟩
      simp [Block.ofLines, hfirst.1]
    · obtain ⟨x, y, hls, hspan⟩ := ih hrest b hb
      refine ⟨Line.join (first :: more) ++ Line.join blank ++ x, y, by simp [hls], ?_⟩
      rw [hspan, Text.bytes_append, Text.bytes_append, ← Nat.add_assoc, ← Nat.add_assoc]

/-- No block starts before the offset of the lines. -/
theorem offset_le (h : Splits title fileId index ls bs) (hc : Line.Consecutive offset ls)
    {b : Block} (hb : b ∈ bs) : offset ≤ b.span.start := by
  obtain ⟨x, y, -, hspan⟩ := h.exists_parts hc b hb
  rw [hspan]
  exact Nat.le_add_right ..

/-- **A block stops before the next one starts.** -/
theorem pairwise_span (h : Splits title fileId index ls bs) (hc : Line.Consecutive offset ls) :
    bs.Pairwise fun a b => a.span.stop ≤ b.span.start := by
  induction h generalizing offset with
  | done => exact .nil
  | pass _ _ ih => exact ih hc.2
  | @block index first more blank rest bs _ hs ih =>
    obtain ⟨hfirst, hrest⟩ := hc.block
    refine List.pairwise_cons.2 ⟨fun b hb => ?_, ih hrest⟩
    have hstart := hs.offset_le hrest hb
    have hstop : (Block.ofLines title fileId index first more).span.stop =
        offset + Text.bytes (Line.join (first :: more)) := by rw [← hfirst.1]; rfl
    omega

/-- Every line that opens a block lies in a block. -/
theorem exists_covers (h : Splits title fileId index ls bs) (hc : Line.Consecutive offset ls)
    {l : Line} (hl : l ∈ ls) (ho : l.Opens) : ∃ b ∈ bs, b.Covers l := by
  induction h generalizing offset with
  | done => simp at hl
  | pass hm _ ih =>
    rcases List.mem_cons.1 hl with rfl | hl
    · exact absurd ho hm
    · exact ih hc.2 hl
  | @block _ first more blank rest bs hrun _ ih =>
    obtain ⟨hfirst, hrest⟩ := hc.block
    have hmem : l ∈ first :: more ∨ l ∈ blank ∨ l ∈ rest := by
      simpa [or_assoc] using hl
    rcases hmem with hl | hl | hl
    · have hb := hfirst.bounds hl
      rw [← hfirst.1] at hb
      exact ⟨_, List.mem_cons_self, hb⟩
    · exact absurd (hrun.blank l hl) ho.not_blank
    · obtain ⟨b, hb, hcov⟩ := ih hrest hl
      exact ⟨b, List.mem_cons_of_mem _ hb, hcov⟩

end Splits

/-- Of blocks that do not overlap, one at most holds a line that has a byte. -/
theorem Block.eq_of_covers {bs : List Block} (h : bs.Pairwise fun a b => a.span.stop ≤ b.span.start)
    {l : Line} (hl : l.start < l.stop) {a b : Block} (ha : a ∈ bs) (hb : b ∈ bs)
    (hal : a.Covers l) (hbl : b.Covers l) : a = b := by
  induction h with
  | nil => simp at ha
  | @cons c bs hcbs _ ih =>
    unfold Block.Covers at hal hbl
    rcases List.mem_cons.1 ha with rfl | ha' <;> rcases List.mem_cons.1 hb with rfl | hb'
    · rfl
    · have := hcbs b hb'
      omega
    · have := hcbs a ha'
      omega
    · exact ih ha' hb'

/-! ## The blocks of a section -/

namespace Section

variable (s : Section)

/-- The lines of the body, at their offsets in the document. -/
def lines : List Line := Line.ofText s.bodyOffset s.body

theorem consecutive_lines : Line.Consecutive s.bodyOffset s.lines :=
  Line.consecutive_ofText _ _

/-- **The lines of a section** are its body cut after each line feed, and are placed where the body
stands in the document. -/
theorem eq_lines_iff {ls : List Line} :
    ls = s.lines ↔
      Line.join ls = s.body ∧ Line.Consecutive s.bodyOffset ls ∧ Text.IsCut (ls.map Line.raw) := by
  rw [← Line.cutAt_iff]
  constructor
  · rintro rfl
    exact ⟨Line.join_ofText _ _, Line.cutAt_ofText _ _⟩
  · rintro ⟨hbody, hcut⟩
    rw [lines, ← hbody, hcut]

/-- The blocks of a section are those of the grammar. -/
theorem splits_blocks : Splits s.name s.fileId 0 s.lines s.blocks :=
  splits_iff.2 rfl

/-- The blocks are numbered from 0. -/
theorem map_index_blocks : s.blocks.map Block.index = List.range s.blocks.length := by
  rw [s.splits_blocks.map_index, List.range_eq_range']

/-- Every block is a slice of the body. -/
theorem slice?_body {b : Block} (hb : b ∈ s.blocks) :
    s.bodyOffset ≤ b.span.start ∧
      Text.slice? s.body (b.span.start - s.bodyOffset) (b.span.stop - s.bodyOffset) =
        some b.text := by
  obtain ⟨x, y, hbody, hspan⟩ := s.splits_blocks.exists_parts s.consecutive_lines b hb
  rw [lines, Line.join_ofText] at hbody
  refine ⟨s.splits_blocks.offset_le s.consecutive_lines hb,
    Text.slice?_eq_some_iff.2 ⟨x, y, hbody, ?_⟩⟩
  simp only [hspan]
  omega

/-- **The reader of a section answers with the blocks of the grammar.**  The grammar allows one list
of blocks and no other, and this is the list of all answers: the answer number `n` is the block
number `n` as long as there is one, and nothing from then on.  The blocks stand in the body in
their order and without overlap, each a slice of it, and every line of the body that looks like the
first line of a block lies in exactly one of them.  The lines that the grammar is about are the body
cut after each line feed, and the text of a line is the line without the line feeds and carriage
returns that it ends in. -/
theorem blocks_follow_grammar :
    (∀ ls, ls = s.lines ↔
      Line.join ls = s.body ∧ Line.Consecutive s.bodyOffset ls ∧ Text.IsCut (ls.map Line.raw)) ∧
      (∀ l ∈ s.lines, (∃ e, l.raw = l.text ++ e ∧ ∀ c ∈ e, c = '\n' ∨ c = '\r') ∧
        l.text.getLast? ≠ some '\n' ∧ l.text.getLast? ≠ some '\r') ∧
      (∀ bs, Splits s.name s.fileId 0 s.lines bs ↔ bs = s.blocks) ∧
      (∀ n, (BlockReader.ofSection s).answer n = s.blocks[n]?) ∧
      s.blocks.map Block.index = List.range s.blocks.length ∧
      (∀ b ∈ s.blocks, s.bodyOffset ≤ b.span.start ∧
        Text.slice? s.body (b.span.start - s.bodyOffset) (b.span.stop - s.bodyOffset) =
          some b.text) ∧
      (s.blocks.Pairwise fun a b => a.span.stop ≤ b.span.start) ∧
      ∀ l ∈ s.lines, l.Opens → ∃! b, b ∈ s.blocks ∧ b.Covers l := by
  have hspans := s.splits_blocks.pairwise_span s.consecutive_lines
  refine ⟨fun ls => s.eq_lines_iff, fun l _ => l.raw_eq_text_append, fun bs => splits_iff,
    fun n => BlockReader.answer_eq _ n, s.map_index_blocks,
    fun b hb => s.slice?_body hb, hspans, fun l hl ho => ?_⟩
  obtain ⟨b, hb, hcov⟩ := s.splits_blocks.exists_covers s.consecutive_lines hl ho
  exact ⟨b, ⟨hb, hcov⟩, fun b' hb' =>
    Block.eq_of_covers hspans ho.start_lt_stop hb'.1 hb hb'.2 hcov⟩

end Section
end Doctest
