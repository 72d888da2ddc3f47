/-
# Examples written anew

Which lines open, close and separate, which show shell commands and which are blank depends on their
texts without the terminators (`Example.isShellLine_eq`, `Line.isBlank_join`).  So a transcription
that keeps the texts of the lines of a section keeps its blocks (`splits_map_onLine`) and what they
are read as:

| of a block | of the block written anew |
| --- | --- |
| index, form, claimed output | the same |
| code | written anew |
| span | at its new place |
| fault | the same, at its new place |

The examples of the section are those of the old one, written anew, or the first fault is
(`blocks_examples_onSection`), and so for a document (`Document.headers_examples_onLines`).
-/

import Doctest.Proofs.Document.Transcription
import Doctest.Proofs.Example.Spans

namespace Doctest

/-! ## Terminators decide nothing -/

namespace Line

/-- A line is its text and terminators, which are white space. -/
theorem exists_raw_eq (l : Line) :
    ∃ e, l.raw = l.text ++ e ∧ ∀ c ∈ e, Text.isBlankChar c = true := by
  obtain ⟨e, hraw, he⟩ := Text.exists_trimEndWhile_append Text.isTerminator l.raw
  refine ⟨e, hraw, fun c hc => ?_⟩
  by_contra hblank
  have hkept := Text.isTerminator_of_not_blank (by simpa using hblank)
  rw [he c hc] at hkept
  cases hkept

/-- A line is blank exactly if its text is. -/
theorem isBlank_raw (l : Line) : Text.isBlank l.raw = l.isBlank := by
  obtain ⟨e, hraw, he⟩ := l.exists_raw_eq
  have hblank : Text.isBlank e = true := Text.isBlank_iff.2 he
  rw [isBlank, hraw, Text.isBlank, List.all_append, ← Text.isBlank, ← Text.isBlank, hblank,
    Bool.and_true]

/-- Some lines make up a blank text exactly if the text of each of them is blank. -/
theorem isBlank_join (ls : List Line) :
    Text.isBlank (join ls) = (ls.map text).all Text.isBlank := by
  induction ls with
  | nil => rfl
  | cons l ls ih =>
    have hl : Text.isBlank l.raw = Text.isBlank l.text := l.isBlank_raw
    rw [join_cons, List.map_cons, List.all_cons, ← ih, ← hl, Text.isBlank, List.all_append]
    rfl

end Line

/-- Whether a line shows a shell command depends on its text. -/
theorem Example.isShellLine_eq (l : Line) :
    isShellLine l = decide (l.text.find? (!Text.isBlankChar ·) = some shellMarker) := by
  obtain ⟨e, hraw, he⟩ := l.exists_raw_eq
  have hnone : e.find? (!Text.isBlankChar ·) = none :=
    List.find?_eq_none.2 fun c hc => by simp [he c hc]
  rw [Bool.eq_iff_iff, isShellLine_iff, decide_eq_true_iff, hraw, List.find?_append, hnone,
    Option.or_none]

/-- What the inline form claims depends on the texts of the lines. -/
theorem Example.inlineExpected_eq (ls : List Line) :
    inlineExpected ls =
      Text.join ['\n'] ((ls.map Line.text).filterMap (Text.afterFirst? inlineMarker)) := by
  rw [List.filterMap_map]
  rfl

/-- What the split form claims depends on the texts of the lines. -/
theorem Example.splitExpected_eq (ls : List Line) :
    splitExpected ls = Text.join ['\n'] ((ls.map Line.text).map unindent) := by
  rw [List.map_map]
  rfl

namespace Transcription

variable {r : Transcription}

namespace Keeps

variable {l : Line}

theorem opens_iff (h : r.Keeps l) : (r.onLine l).Opens ↔ l.Opens := by
  rw [Line.Opens, Line.Opens, h.text_eq]

theorem closes_iff (h : r.Keeps l) : (r.onLine l).Closes ↔ l.Closes := by
  rw [Line.Closes, Line.Closes, h.text_eq]

theorem blank_iff (h : r.Keeps l) : (r.onLine l).Blank ↔ l.Blank := by
  rw [Line.Blank, Line.Blank, h.text_eq]

theorem isSeparator_eq (h : r.Keeps l) :
    Example.isSeparator (r.onLine l) = Example.isSeparator l := by
  rw [Example.isSeparator, Example.isSeparator, h.text_eq]

theorem isShellLine_eq (h : r.Keeps l) :
    Example.isShellLine (r.onLine l) = Example.isShellLine l := by
  rw [Example.isShellLine_eq, Example.isShellLine_eq, h.text_eq]

end Keeps

/-! ## Blocks -/

variable (r) in
/-- The block written anew, at its new place. -/
def onBlock (b : Block) : Block := { b with text := r.onText b.text, span := r.onSpan b.span }

variable (r) in
/-- The example with its code written anew, at its new place. -/
def onExample (e : Example) : Example := { e with code := r.onText e.code, span := r.onSpan e.span }

variable (r) in
/-- The fault at its new place. -/
def onFault (f : Fault) : Fault := { f with span := r.onSpan f.span }

/-- The block of the lines written anew is the block of the lines, written anew. -/
theorem ofLines_onLine {first : Line} {more : List Line}
    (hc : Line.Consecutive first.start (first :: more)) (h : ∀ l ∈ first :: more, r.Keeps l)
    (title : Text) (fileId index : Nat) :
    Block.ofLines title fileId index (r.onLine first) (more.map r.onLine) =
      r.onBlock (Block.ofLines title fileId index first more) := by
  have hjoin : Line.join (r.onLine first :: more.map r.onLine) =
      r.onText (Line.join (first :: more)) := join_map_onLine (first :: more)
  simp only [Block.ofLines, onBlock, onSpan, hjoin, offset_join hc h]
  rfl

/-- The lines of a block written anew are those of a block. -/
theorem blockRun_onLine {first : Line} {more blank rest : List Line}
    (h : ∀ l ∈ first :: (more ++ blank ++ rest), r.Keeps l)
    (hrun : BlockRun first more blank rest) :
    BlockRun (r.onLine first) (more.map r.onLine) (blank.map r.onLine) (rest.map r.onLine) where
  opens := (h first List.mem_cons_self).opens_iff.2 hrun.opens
  not_closes := by
    rw [← List.map_append]
    refine List.forall_mem_map.2 fun l hl hcloses => hrun.not_closes l hl ?_
    exact (h l (List.mem_cons_of_mem _ (List.mem_append_left _ hl))).closes_iff.1 hcloses
  last_not_blank := by
    intro l hl hblank
    rw [← List.map_cons, List.getLast?_map] at hl
    obtain ⟨m, hm, rfl⟩ := Option.map_eq_some_iff.1 hl
    have hmem : m ∈ first :: (more ++ blank ++ rest) := by
      have := List.mem_of_getLast? hm
      rw [← List.cons_append, ← List.cons_append]
      exact List.mem_append_left _ (List.mem_append_left _ this)
    exact hrun.last_not_blank m hm ((h m hmem).blank_iff.1 hblank)
  blank := by
    refine List.forall_mem_map.2 fun l hl => (h l ?_).blank_iff.2 (hrun.blank l hl)
    simp [hl]
  closes := by
    intro l hl
    rw [List.head?_map] at hl
    obtain ⟨m, hm, rfl⟩ := Option.map_eq_some_iff.1 hl
    refine (h m ?_).closes_iff.2 (hrun.closes m hm)
    simp [List.mem_of_head? hm]

/-- **The blocks of lines written anew are the blocks of the lines, written anew.**  The induction
is on the grammar: each line that is passed over, and each run of lines that is a block, stays
one. -/
theorem splits_map_onLine {title : Text} {fileId index offset : Nat} {ls : List Line}
    {bs : List Block} (hs : Splits title fileId index ls bs) (hc : Line.Consecutive offset ls)
    (h : ∀ l ∈ ls, r.Keeps l) :
    Splits title fileId index (ls.map r.onLine) (bs.map r.onBlock) := by
  induction hs generalizing offset with
  | done => exact .done
  | pass hno _ ih =>
    rw [List.forall_mem_cons] at h
    exact .pass (fun ho => hno (h.1.opens_iff.1 ho)) (ih hc.2 h.2)
  | @block index first more blank rest bs hrun _ ih =>
    obtain ⟨hfirst, hrest⟩ := hc.block
    have hrest' := ih hrest fun l hl => h l (by simp [hl])
    have hkeeps : ∀ l ∈ first :: more, r.Keeps l := fun l hl => h l (by
      rw [← List.cons_append, ← List.cons_append]
      exact List.mem_append_left _ (List.mem_append_left _ hl))
    have hfirst' : Line.Consecutive first.start (first :: more) := hfirst.1 ▸ hfirst
    have hblock : Splits title fileId index _ _ := .block (blockRun_onLine h hrun) hrest'
    rw [ofLines_onLine hfirst' hkeeps, ← List.map_append, ← List.map_append] at hblock
    exact hblock

/-! ## Reading a block -/

theorem runnable_map_onLine {ls : List Line} (h : ∀ l ∈ ls, r.Keeps l) :
    Example.runnable (ls.map r.onLine) = r.onText (Example.runnable ls) := by
  have hshell : ∀ l ∈ ls, (!Example.isShellLine (r.onLine l)) = !Example.isShellLine l :=
    fun l hl => by rw [(h l hl).isShellLine_eq]
  rw [Example.runnable, Example.runnable, filter_map_onLine hshell, join_map_onLine]

theorem map_text_onLine {ls : List Line} (h : ∀ l ∈ ls, r.Keeps l) :
    (ls.map r.onLine).map Line.text = ls.map Line.text := by
  rw [List.map_map]
  exact List.map_congr_left fun l hl => (h l hl).text_eq

/-- The code and the claimed output of a block decide what is read, so code written anew gives the
example written anew. -/
theorem ofParts_onBlock {code : List Line} (h : ∀ l ∈ code, r.Keeps l) (b : Block) (expected : Text)
    (form : ExampleForm) :
    Example.ofParts (r.onBlock b) (code.map r.onLine) expected form =
      ((Example.ofParts b code expected form).map r.onExample).mapError r.onFault := by
  have hblank : Text.isBlank (Line.join (code.map r.onLine)) = Text.isBlank (Line.join code) := by
    rw [Line.isBlank_join, Line.isBlank_join, map_text_onLine h]
  rw [Example.ofParts, Example.ofParts, hblank, runnable_map_onLine h]
  split <;> rfl

/-- **A block written anew is read as the example written anew**, or it has the same fault at its
new place. -/
theorem ofBlock_onBlock {b : Block} (hlines : (r.onBlock b).lines = b.lines.map r.onLine)
    (h : ∀ l ∈ b.lines, r.Keeps l) :
    Example.ofBlock (r.onBlock b) =
      ((Example.ofBlock b).map r.onExample).mapError r.onFault := by
  have hfilter : (b.lines.map r.onLine).filter Example.isSeparator =
      (b.lines.filter Example.isSeparator).map r.onLine :=
    filter_map_onLine fun l hl => (h l hl).isSeparator_eq
  have hcode : (b.lines.map r.onLine).takeWhile (!Example.isSeparator ·) =
      (b.lines.takeWhile (!Example.isSeparator ·)).map r.onLine :=
    takeWhile_map_onLine fun l hl => by rw [(h l hl).isSeparator_eq]
  have hof : ∀ b : Block, Line.ofText b.span.start b.text = b.lines := fun _ => rfl
  simp only [Example.ofBlock, hof, hlines, hfilter, hcode, List.length_map]
  split
  · rename_i hnone
    rw [List.map_eq_nil_iff] at hnone
    rw [hnone, Example.inlineExpected_eq, map_text_onLine h, ← Example.inlineExpected_eq]
    exact ofParts_onBlock h b _ _
  · rename_i separator hone
    obtain ⟨separator', hone', -⟩ := List.map_eq_singleton_iff.1 hone
    rw [hone']
    have houtput : ∀ l ∈ b.lines.drop ((b.lines.takeWhile (!Example.isSeparator ·)).length + 1),
        r.Keeps l := fun l hl => h l (List.mem_of_mem_drop hl)
    rw [← List.map_drop, Example.splitExpected_eq, map_text_onLine houtput,
      ← Example.splitExpected_eq]
    exact ofParts_onBlock (fun l hl => h l ((List.takeWhile_sublist _).mem hl)) b _ _
  · rename_i second more hmany
    obtain ⟨_, rest, hrest, -, hsecond⟩ := List.map_eq_cons_iff.1 hmany
    obtain ⟨second', more', rfl, rfl, rfl⟩ := List.map_eq_cons_iff.1 hsecond
    have hmem : second' ∈ b.lines.filter Example.isSeparator := by simp [hrest]
    have hkeeps : r.Keeps second' := h second' (List.mem_filter.1 hmem).1
    rw [hrest, List.length_map]
    simp only [Example.ambiguous, hkeeps.text_eq]
    rw [Except.map, Except.mapError, onFault, onSpan, hkeeps.text_stop_eq]
    rfl

/-! ## The examples of a section -/

/-- Readings that correspond block by block make up lists that correspond. -/
theorem mapM_ofBlock_onBlock {bs : List Block}
    (h : ∀ b ∈ bs, Example.ofBlock (r.onBlock b) =
      ((Example.ofBlock b).map r.onExample).mapError r.onFault) :
    (bs.map r.onBlock).mapM Example.ofBlock =
      ((bs.mapM Example.ofBlock).map (List.map r.onExample)).mapError r.onFault := by
  induction bs with
  | nil => rfl
  | cons b bs ih =>
    rw [List.forall_mem_cons] at h
    rw [List.map_cons, List.mapM_cons, List.mapM_cons, h.1, ih h.2]
    cases Example.ofBlock b with
    | error f => rfl
    | ok e => cases bs.mapM Example.ofBlock <;> rfl

/-- **The lines of a block written anew are its lines, written anew**, when its section is there
with lines written anew. -/
theorem lines_onBlock {s s' : Section} (hlines : s'.lines = s.lines.map r.onLine)
    (h : ∀ l ∈ s.lines, r.Keeps l) {b : Block} (hb : b ∈ s.blocks) :
    (r.onBlock b).lines = b.lines.map r.onLine ∧ ∀ l ∈ b.lines, r.Keeps l := by
  obtain ⟨before, first, more, after, hls, hofLines, -⟩ := s.splits_blocks.exists_lines b hb
  have hcut := s.cutAt_lines
  have hcut' := s'.cutAt_lines
  rw [hls] at hcut
  rw [hlines, hls, List.map_append, List.map_append, List.map_cons] at hcut'
  have hkeeps : ∀ l ∈ first :: more, r.Keeps l := fun l hl => h l (by
    rw [hls]
    exact List.mem_append_left _ (List.mem_append_right _ hl))
  have hmine : Line.CutAt first.start (first :: more) :=
    (hcut.lines_ofLines s.name s.fileId b.index).1
  have hmine' := (hcut'.lines_ofLines s.name s.fileId b.index).1
  rw [ofLines_onLine (Line.cutAt_iff.1 hmine).1 hkeeps, ← hofLines] at hmine'
  have hof : b.lines = first :: more := by
    rw [hofLines]
    exact hmine
  rw [hof, hmine']
  exact ⟨rfl, hkeeps⟩

/-- **A section whose lines are those of another, written anew, has its blocks and its examples**,
written anew, or its first fault. -/
theorem blocks_examples_onSection {s s' : Section} (hname : s'.name = s.name)
    (hfile : s'.fileId = s.fileId) (hlines : s'.lines = s.lines.map r.onLine)
    (h : ∀ l ∈ s.lines, r.Keeps l) :
    s'.blocks = s.blocks.map r.onBlock ∧
      s'.examples = (s.examples.map (List.map r.onExample)).mapError r.onFault := by
  have hblocks : s'.blocks = s.blocks.map r.onBlock := by
    have hsplits := splits_map_onLine s.splits_blocks s.consecutive_lines h
    rw [← hname, ← hfile, ← hlines] at hsplits
    exact (splits_iff.1 hsplits).symm
  refine ⟨hblocks, ?_⟩
  rw [Section.examples, Section.examples, hblocks]
  refine mapM_ofBlock_onBlock fun b hb => ?_
  obtain ⟨hb', hkeeps⟩ := lines_onBlock hlines h hb
  exact ofBlock_onBlock hb' hkeeps

end Transcription

/-! ## The examples of a document -/

namespace Document

variable {r : Transcription} {d d' : Document}

/-- The lines of a section found in a document written anew are its lines, written anew. -/
theorem lines_onSection (hlines : d'.lines = d.lines.map r.onLine) (h : ∀ l ∈ d.lines, r.Keeps l)
    {name : Text} {s : Section} (hs : d.findSection name = .ok s) :
    (r.onSection s).lines = s.lines.map r.onLine ∧ ∀ l ∈ s.lines, r.Keeps l := by
  obtain ⟨before, l, after, _, hls, -, -, hoffset⟩ := exists_lines_section hs
  have hkeeps : r.Keeps l := h l (by simp [hls])
  have hls' : d'.lines =
      (before ++ [l]).map r.onLine ++ s.lines.map r.onLine ++ after.map r.onLine := by
    simp [hlines, hls]
  have hcut : Line.CutAt (0 + Text.bytes (Line.join ((before ++ [l]).map r.onLine)))
      (s.lines.map r.onLine) := (hls' ▸ d'.cutAt_lines).middle
  have hstop : 0 + Text.bytes (Line.join ((before ++ [l]).map r.onLine)) =
      (r.onSection s).bodyOffset := by
    have hstart : (r.onLine l).start = Text.bytes (Line.join (before.map r.onLine)) :=
      start_of_lines (by rw [hlines, hls, List.map_append, List.map_cons])
    have hoffset' : (r.onSection s).bodyOffset = (r.onLine l).stop := by
      rw [hkeeps.stop_eq, ← hoffset]
      rfl
    rw [hoffset', Line.stop, hstart, List.map_append, Line.join_append, Text.bytes_append]
    simp
  rw [hstop, Line.CutAt, Transcription.join_map_onLine, s.join_lines] at hcut
  exact ⟨hcut, fun m hm => h m (by simp [hls, hm])⟩

/-- **A document whose lines are those of another, written anew, has its headers and its examples**,
written anew, or the same first fault at its new place. -/
theorem headers_examples_onLines (hpath : d'.path = d.path) (hfile : d'.fileId = d.fileId)
    (hlines : d'.lines = d.lines.map r.onLine) (hzero : r.offset 0 = 0)
    (h : ∀ l ∈ d.lines, r.Keeps l) (name : Text) :
    d'.headers = d.headers.map r.onHeader ∧
      d'.examples name = ((d.examples name).map (List.map r.onExample)).mapError r.onFault := by
  have hheaders : d'.headers = d.headers.map r.onHeader := by
    rw [← ofLines_lines, hlines, Transcription.ofLines_map_onLine h, ofLines_lines]
  refine ⟨hheaders, ?_⟩
  have hfind : Section.find? d'.fileId name d'.lines =
      (Section.find? d.fileId name d.lines).map r.onSection := by
    rw [hfile, hlines, Transcription.find?_map_onLine h]
  rw [examples, examples]
  cases hs : Section.find? d.fileId name d.lines with
  | none =>
    rw [hs] at hfind
    have hnames : d'.sectionNames = d.sectionNames := by
      rw [sectionNames, sectionNames, hheaders, List.map_map]
      rfl
    have hfault : d'.sectionNotFound name = r.onFault (d.sectionNotFound name) := by
      simp only [sectionNotFound, Document.name, hnames, hpath, hfile, Transcription.onFault,
        Transcription.onSpan, hzero]
    rw [findSection_eq_error_iff.2 ⟨hs, rfl⟩, findSection_eq_error_iff.2 ⟨hfind, rfl⟩, hfault]
    rfl
  | some s =>
    rw [hs] at hfind
    have hfound := findSection_eq_ok_iff.2 hs
    obtain ⟨hlines', hkeeps⟩ := lines_onSection hlines h hfound
    rw [hfound, findSection_eq_ok_iff.2 hfind]
    have hname : (r.onSection s).name = s.name := rfl
    exact (Transcription.blocks_examples_onSection hname rfl hlines' hkeeps).2

end Document
end Doctest
