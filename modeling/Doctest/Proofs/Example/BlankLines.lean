/-
# Blank lines outside of blocks

Blank lines make no difference where they stand, as long as they do not stand inside a block:

| place of the new lines | what becomes of them |
| --- | --- |
| before all blocks, or among lines that open none | they are passed over |
| before the first line of a block | they are passed over |
| after a block, before the line that closes it | they join its blank end, which is left out |
| before that line, or after it | one of the two above |

So the blocks before the place stay where they are and those after it move by the bytes of the new
lines (`Splits.insert`, by induction on the grammar).  A block that is moved is read as before
(`Example.ofBlock_moved`).  Hence the examples of a section and their faults do not depend on the
blank lines around its blocks (`Section.blocks_insert`).
-/

import Doctest.Proofs.Example.Surrounded
import Mathlib.Data.List.Forall2

namespace Doctest

/-! ## Blocks that move -/

/-- The block with its span moved by some bytes. -/
def Block.moved (n : Nat) (b : Block) : Block := { b with span := b.span.moved n }

/-- What becomes of a block when `n` bytes are put in at a place: before the place it stays, after
it it moves. -/
inductive Block.Displaced (place n : Nat) (b : Block) : Block → Prop
  | before : b.span.stop ≤ place → Displaced place n b b
  | after : place ≤ b.span.start → Displaced place n b (b.moved n)

theorem Transcription.onBlock_shift (n : Nat) : (shift n).onBlock = Block.moved n := by
  funext b
  rw [onBlock, onText_shift]
  rfl

/-- **A block that is moved is read as before**, at its new place. -/
theorem Example.ofBlock_moved (n : Nat) (b : Block) :
    ofBlock (b.moved n) = ((ofBlock b).map (Example.moved n)).mapError (Fault.moved n) := by
  have hlines : ((Transcription.shift n).onBlock b).lines =
      b.lines.map (Transcription.shift n).onLine := by
    rw [Transcription.onBlock_shift]
    exact Line.ofText_add b.span.start n b.text
  have hread := Transcription.ofBlock_onBlock hlines fun l _ => Transcription.keeps_shift n l
  rwa [Transcription.onBlock_shift, Transcription.onExample_shift] at hread

/-! ## Lines put in -/

/-- Lines of which one is not blank have a byte. -/
theorem Line.bytes_join_pos {ls : List Line} {l : Line} (hl : l ∈ ls) (h : ¬ l.Blank) :
    0 < Text.bytes (join ls) := by
  have hne : l.raw ≠ [] := by
    intro hnil
    refine h fun c hc => ?_
    have hmem := l.text_prefix.subset hc
    rw [hnil] at hmem
    simp at hmem
  obtain ⟨before, after, rfl⟩ := List.append_of_mem hl
  have hpos := Text.bytes_pos_iff.2 hne
  rw [join_append, join_cons, Text.bytes_append, Text.bytes_append]
  omega

/-- The lines of a text of white space are blank. -/
theorem Line.blank_of_mem_ofText {offset : Nat} {t : Text} (ht : t.isBlank = true) {l : Line}
    (hl : l ∈ ofText offset t) : l.Blank := by
  obtain ⟨before, after, hls⟩ := List.append_of_mem hl
  have hjoin := join_ofText offset t
  rw [hls, join_append, join_cons] at hjoin
  intro c hc
  have hmem : c ∈ l.raw := l.text_prefix.subset hc
  refine Text.isBlank_iff.1 ht c ?_
  rw [← hjoin]
  simp [hmem]

namespace BlockRun

variable {n : Nat} {gap : List Line}

/-- Lines of a block that blank lines are put after, before the lines `rest` and some of the blank
lines at its end, are lines of the block still. -/
theorem insert {first : Line} {more before after rest : List Line}
    (h : BlockRun first more (before ++ after) rest) (hgap : ∀ l ∈ gap, l.Blank) :
    BlockRun first more (before ++ gap ++ after.map (Transcription.shift n).onLine)
      (rest.map (Transcription.shift n).onLine) := by
  have hkeeps := Transcription.keeps_shift n
  have hblank : ∀ l ∈ before ++ gap ++ after.map (Transcription.shift n).onLine, l.Blank := by
    intro l hl
    rcases List.mem_append.1 hl with hl | hl
    · rcases List.mem_append.1 hl with hl | hl
      · exact h.blank l (List.mem_append_left _ hl)
      · exact hgap l hl
    · obtain ⟨m, hm, rfl⟩ := List.mem_map.1 hl
      exact (hkeeps m).blank_iff.2 (h.blank m (List.mem_append_right _ hm))
  refine ⟨h.opens, fun l hl => ?_, h.last_not_blank, hblank, fun l hl => ?_⟩
  · rcases List.mem_append.1 hl with hl | hl
    · exact h.not_closes l (List.mem_append_left _ hl)
    · exact (hblank l hl).not_closes
  · rw [List.head?_map] at hl
    obtain ⟨m, hm, rfl⟩ := Option.map_eq_some_iff.1 hl
    exact (hkeeps m).closes_iff.2 (h.closes m hm)

/-- A place among the lines of a block is strictly inside the block, unless it is past the last line
that is not blank. -/
theorem inside_of_append {first : Line} {before after blank rest : List Line}
    (h : BlockRun first (before ++ after) blank rest) (hafter : after ≠ [])
    (title : Text) (fileId index : Nat) :
    let b := Block.ofLines title fileId index first (before ++ after)
    b.span.start < first.start + Text.bytes (Line.join (first :: before)) ∧
      first.start + Text.bytes (Line.join (first :: before)) < b.span.stop := by
  intro b
  have hfirst : 0 < Text.bytes first.raw := by
    have hlt := h.opens.start_lt_stop
    rw [Line.stop] at hlt
    omega
  have hrest : 0 < Text.bytes (Line.join after) := by
    obtain ⟨l, hl⟩ := Option.isSome_iff_exists.1 (List.getLast?_isSome.2 hafter)
    refine Line.bytes_join_pos (List.mem_of_getLast? hl) (h.last_not_blank l ?_)
    rw [← List.cons_append, List.getLast?_append, hl]
    rfl
  have hstart : b.span.start = first.start := rfl
  have hstop : b.span.stop =
      first.start + Text.bytes (Line.join (first :: (before ++ after))) := rfl
  rw [hstart, hstop]
  simp only [Line.join_cons, Line.join_append, Text.bytes_append]
  omega

end BlockRun

namespace Splits

variable {title : Text} {fileId index offset place n : Nat} {ls gap : List Line} {bs : List Block}

/-- **Blank lines put before all the lines are passed over**, and the blocks move. -/
theorem insert_front (h : Splits title fileId index ls bs) (hc : Line.Consecutive offset ls)
    (hplace : place ≤ offset) (hgap : ∀ l ∈ gap, l.Blank) :
    ∃ bs', Splits title fileId index (gap ++ ls.map (Transcription.shift n).onLine) bs' ∧
      List.Forall₂ (Block.Displaced place n) bs bs' := by
  have hmoved := Transcription.splits_map_onLine h hc fun l _ => Transcription.keeps_shift n l
  rw [Transcription.onBlock_shift] at hmoved
  refine ⟨_, .pass_append (fun l hl ho => ho.not_blank (hgap l hl)) hmoved, ?_⟩
  rw [List.forall₂_map_right_iff, List.forall₂_same]
  intro b hb
  exact .after (hplace.trans (h.offset_le hc hb))

/-- Where a place among the lines of a block and those after it can be: before a line that is not
among the blank ones at its end, before one of those or right after them, or later. -/
theorem place_cases {more blank rest before after : List Line}
    (h : more ++ blank ++ rest = before ++ after) :
    (∃ l inside, more = before ++ l :: inside) ∨
      (∃ read left, blank = read ++ left ∧ before = more ++ read ∧ after = left ++ rest) ∨
      ∃ l read, before = more ++ blank ++ l :: read ∧ rest = l :: read ++ after := by
  rw [List.append_assoc] at h
  rcases List.append_eq_append_iff.1 h with ⟨past, rfl, htail⟩ | ⟨inside, hmore, hafter⟩
  · rcases List.append_eq_append_iff.1 htail with ⟨read, rfl, rfl⟩ | ⟨left, rfl, rfl⟩
    · cases read with
      | nil => exact .inr (.inl ⟨blank, [], by simp, by simp, rfl⟩)
      | cons l read => exact .inr (.inr ⟨l, read, by simp, rfl⟩)
    · exact .inr (.inl ⟨past, left, rfl, rfl, rfl⟩)
  · cases inside with
    | nil => exact .inr (.inl ⟨[], blank, rfl, by simpa using hmore.symm, hafter⟩)
    | cons l inside => exact .inl ⟨l, inside, hmore⟩

/-- **Blank lines put in outside of blocks make no block, and join or cut none.**  The induction is
on the grammar, with the lines before the place as they are left of it: either the place is reached
before the next line, or that line, or the whole block that it opens, comes before the place. -/
theorem insert (h : Splits title fileId index ls bs) {before after : List Line}
    (hls : ls = before ++ after) (hc : Line.Consecutive offset ls) (hgap : ∀ l ∈ gap, l.Blank)
    (houtside : ∀ b ∈ bs, ¬ (b.span.start < offset + Text.bytes (Line.join before) ∧
      offset + Text.bytes (Line.join before) < b.span.stop)) :
    ∃ bs', Splits title fileId index
        (before ++ gap ++ after.map (Transcription.shift n).onLine) bs' ∧
      List.Forall₂ (Block.Displaced (offset + Text.bytes (Line.join before)) n) bs bs' := by
  induction h generalizing offset before with
  | done =>
    obtain ⟨rfl, rfl⟩ := List.append_eq_nil_iff.1 hls.symm
    exact Splits.done.insert_front hc (by simp) hgap
  | @pass index l ls bs hl hs ih =>
    cases before with
    | nil =>
      obtain rfl : l :: ls = after := hls
      exact (Splits.pass hl hs).insert_front hc (by simp) hgap
    | cons l' before =>
      obtain ⟨rfl, htail⟩ := List.cons.inj hls
      have hplace : offset + Text.bytes (Line.join (l :: before)) =
          l.stop + Text.bytes (Line.join before) := by
        rw [Line.join_cons, Text.bytes_append, Line.stop_eq hc.1, Nat.add_assoc]
      rw [hplace] at houtside ⊢
      obtain ⟨bs', hs', hbs⟩ := ih htail hc.2 houtside
      exact ⟨bs', .pass hl hs', hbs⟩
  | @block index first more blank rest bs hrun hs ih =>
    cases before with
    | nil =>
      obtain rfl : first :: (more ++ blank ++ rest) = after := hls
      exact (Splits.block hrun hs).insert_front hc (by simp) hgap
    | cons first' before =>
      obtain ⟨rfl, htail⟩ := List.cons.inj hls
      obtain ⟨hfirst, hrest⟩ := hc.block
      obtain rfl : first.start = offset := hfirst.1
      rw [List.forall_mem_cons] at houtside
      have hstop : (Block.ofLines title fileId index first more).span.stop =
          first.start + Text.bytes (Line.join (first :: more)) := rfl
      rcases place_cases htail with ⟨l, inside, rfl⟩ | ⟨read, left, rfl, rfl, rfl⟩ |
        ⟨l, read, rfl, rfl⟩
      · exact absurd (hrun.inside_of_append (List.cons_ne_nil l inside) title fileId index)
          houtside.1
      · -- The new lines join the blank ones at the end of the block.
        have hplace : first.start + Text.bytes (Line.join (first :: (more ++ read))) ≤
            first.start + Text.bytes (Line.join (first :: more)) +
              Text.bytes (Line.join (read ++ left)) := by
          simp only [Line.join_cons, Line.join_append, Text.bytes_append]
          omega
        have hnone : ∀ l ∈ ([] : List Line), l.Blank := List.forall_mem_nil _
        obtain ⟨bs', hs', hbs⟩ := hs.insert_front (n := n) hrest hplace hnone
        refine ⟨_ :: bs', ?_, .cons (.before ?_) hbs⟩
        · have hblock := Splits.block (hrun.insert (n := n) hgap) hs'
          simpa using hblock
        · rw [hstop]
          simp only [Line.join_cons, Line.join_append, Text.bytes_append]
          omega
      · -- The whole block comes before the place.
        have hplace : first.start + Text.bytes (Line.join (first :: (more ++ blank ++ l :: read))) =
            first.start + Text.bytes (Line.join (first :: more)) + Text.bytes (Line.join blank) +
              Text.bytes (Line.join (l :: read)) := by
          simp only [Line.join_cons, Line.join_append, Text.bytes_append]
          omega
        rw [hplace] at houtside ⊢
        obtain ⟨bs', hs', hbs⟩ := ih rfl hrest houtside.2
        have hrun' : BlockRun first more blank
            (l :: read ++ gap ++ after.map (Transcription.shift n).onLine) :=
          ⟨hrun.opens, hrun.not_closes, hrun.last_not_blank, hrun.blank, fun m hm =>
            hrun.closes m (by simpa using hm)⟩
        refine ⟨_ :: bs', ?_, .cons (.before ?_) hbs⟩
        · have hblock := Splits.block hrun' hs'
          simpa using hblock
        · rw [hstop]
          omega

end Splits

/-! ## The blocks of a section -/

/-- Two readings of a block have the same outcome but for the place: the same example, or a fault of
the same kind. -/
def Example.SameReading : Except Fault Example → Except Fault Example → Prop
  | .ok e, .ok f => e.index = f.index ∧ e.code = f.code ∧ e.expected = f.expected ∧ e.form = f.form
  | .error e, .error f => e.kind = f.kind
  | _, _ => False

/-- A block that is displaced keeps its number, its text and what it is read as. -/
theorem Block.Displaced.sameReading {place n : Nat} {b b' : Block} (h : b.Displaced place n b') :
    b'.index = b.index ∧ b'.text = b.text ∧
      Example.SameReading (Example.ofBlock b) (Example.ofBlock b') := by
  cases h with
  | before _ =>
    refine ⟨rfl, rfl, ?_⟩
    cases Example.ofBlock b with
    | error f => exact rfl
    | ok e => exact ⟨rfl, rfl, rfl, rfl⟩
  | after _ =>
    refine ⟨rfl, rfl, ?_⟩
    rw [Example.ofBlock_moved]
    cases Example.ofBlock b with
    | error f => exact rfl
    | ok e => exact ⟨rfl, rfl, rfl, rfl⟩

namespace Section

/-- **Blank lines outside of blocks never matter.**  Take a section and a place between two lines of
its body, or at an end of it, that is not strictly inside a block, and put whole lines there that
hold white space only.  The new section has as many blocks, with the same numbers and texts; those
that stop at the place or before it stay where they are, and those that start there or later move by
the bytes put in.  Each is read as the same example, or has a fault of the same kind. -/
theorem blocks_insert (s : Section) {before gap after : Text} (hbody : s.body = before ++ after)
    (hbefore : before.EndsLine) (hgap : gap.EndsLine) (hblank : gap.isBlank = true)
    (houtside : ∀ b ∈ s.blocks, ¬ (b.span.start < s.bodyOffset + Text.bytes before ∧
      s.bodyOffset + Text.bytes before < b.span.stop)) :
    List.Forall₂ (fun b b' =>
        (b.span.stop ≤ s.bodyOffset + Text.bytes before ∧ b'.span = b.span ∨
          s.bodyOffset + Text.bytes before ≤ b.span.start ∧
            b'.span = b.span.moved (Text.bytes gap)) ∧
        b'.index = b.index ∧ b'.text = b.text ∧
        Example.SameReading (Example.ofBlock b) (Example.ofBlock b'))
      s.blocks { s with body := before ++ gap ++ after }.blocks := by
  have hlines : s.lines = Line.ofText s.bodyOffset before ++
      Line.ofText (s.bodyOffset + Text.bytes before) after := by
    rw [lines, hbody, Line.ofText_append hbefore]
  have hlines' : { s with body := before ++ gap ++ after }.lines =
      Line.ofText s.bodyOffset before ++ Line.ofText (s.bodyOffset + Text.bytes before) gap ++
        (Line.ofText (s.bodyOffset + Text.bytes before) after).map
          (Transcription.shift (Text.bytes gap)).onLine := by
    rw [← Line.ofText_add, lines, List.append_assoc, List.append_assoc,
      Line.ofText_append hbefore, Line.ofText_append hgap]
  have hplace : s.bodyOffset + Text.bytes (Line.join (Line.ofText s.bodyOffset before)) =
      s.bodyOffset + Text.bytes before := by
    rw [Line.join_ofText]
  obtain ⟨bs', hs', hbs⟩ := s.splits_blocks.insert (n := Text.bytes gap) hlines s.consecutive_lines
    (fun l hl => Line.blank_of_mem_ofText hblank hl) (by rwa [hplace])
  rw [← hlines'] at hs'
  have hblocks : bs' = { s with body := before ++ gap ++ after }.blocks := splits_iff.1 hs'
  rw [hplace, hblocks] at hbs
  refine hbs.imp fun b b' hb => ?_
  obtain ⟨hindex, htext, hreading⟩ := hb.sameReading
  refine ⟨?_, hindex, htext, hreading⟩
  cases hb with
  | before hstop => exact .inl ⟨hstop, rfl⟩
  | after hstart => exact .inr ⟨hstart, rfl⟩

/-- New lines between a block and the prose that closes it: the block stays, and the one after the
prose, which has two separators, moves by their seven bytes. -/
theorem blocks_insert_before_prose :
    let before := "  ß # => 1\n\n".toList
    let gap := "\u3000\n \r\n".toList
    let after := "\nthen\n    far\n  q\n  #### output:\n  #### output:\n".toList
    let s : Section := ⟨"S".toList, 1, ⟨0, 3⟩, before ++ after, 4, 0⟩
    let s' : Section := { s with body := before ++ gap ++ after }
    s.blocks.map Block.span = [⟨4, 16⟩, ⟨31, 65⟩] ∧ s'.blocks.map Block.span = [⟨4, 16⟩, ⟨38, 72⟩] ∧
      List.Forall₂ (fun b b' => b'.index = b.index ∧ b'.text = b.text ∧
        Example.SameReading (Example.ofBlock b) (Example.ofBlock b')) s.blocks s'.blocks := by
  intro before gap after s s'
  have hspans : s.blocks.map Block.span = [⟨4, 16⟩, ⟨31, 65⟩] := by decide +kernel
  have houtside : ∀ b ∈ s.blocks, ¬ (b.span.start < s.bodyOffset + Text.bytes before ∧
      s.bodyOffset + Text.bytes before < b.span.stop) := by decide +kernel
  have hbody : s.body = before ++ after := rfl
  have hgap : Text.EndsLine gap ∧ Text.isBlank gap = true := by decide
  have hblocks := s.blocks_insert hbody (by decide) hgap.1 hgap.2 houtside
  exact ⟨hspans, by decide +kernel, hblocks.imp fun b b' hb => hb.2⟩

end Section
end Doctest
