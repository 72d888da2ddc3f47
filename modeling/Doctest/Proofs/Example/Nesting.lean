/-
# Sections inside sections

A section's body may hold deeper headers, so the sections of a document nest like brackets: of two
of them the later one starts after the earlier one's end, or it lies wholly inside
(`sections_nest`).  A header closes a block and the inner section stops at a header or where the
document stops, so its ends cut no block in two.  The outer section has the blocks of the inner one
among its own:

    outer   before ++ (inner, numbered on from `before`) ++ after

and reading a block does not depend on which of the two it is reached through.
-/

import Doctest.Proofs.Document.Lookup
import Doctest.Proofs.Example.Blocks
import Doctest.Proofs.Example.Reading

namespace Doctest

/-! ## Blocks of joined lines -/

/-- The block as one of another section, `count` blocks of which come before the blocks of its
own. -/
def Block.within (title : Text) (count : Nat) (b : Block) : Block :=
  { b with title := title, index := count + b.index }

namespace Splits

variable {title : Text} {fileId index : Nat} {ls ms : List Line} {as bs : List Block}

/-- **Blocks do not go on past a line that closes them**, so the blocks of lines before such a line
and those of the lines from it on are the blocks of all the lines. -/
theorem append (hl : Splits title fileId index ls as) (hclose : ∀ l ∈ ms.head?, l.Closes)
    (hm : Splits title fileId (index + as.length) ms bs) :
    Splits title fileId index (ls ++ ms) (as ++ bs) := by
  induction hl with
  | done => exact hm
  | pass hno _ ih => exact .pass hno (ih hm)
  | @block index first more blank rest as hrun _ ih =>
    have hrun' : BlockRun first more blank (rest ++ ms) := by
      refine { hrun with closes := fun l hl => ?_ }
      cases rest with
      | nil => exact hclose l hl
      | cons m rest => exact hrun.closes l hl
    rw [List.length_cons, Nat.add_comm as.length 1, ← Nat.add_assoc] at hm
    have hjoined := Splits.block hrun' (ih hm)
    rwa [← List.append_assoc, ← List.cons_append] at hjoined

/-- Numbered from another index on and under another title, the lines have the same blocks. -/
theorem within (h : Splits title fileId index ls bs) (title' : Text) (count : Nat) :
    Splits title' fileId (count + index) ls (bs.map (Block.within title' count)) := by
  induction h with
  | done => exact .done
  | pass hno _ ih => exact .pass hno ih
  | block hrun _ ih => exact .block hrun ih

/-- A block does not stop past the end of the lines. -/
theorem stop_le {offset : Nat} (h : Splits title fileId index ls bs)
    (hc : Line.Consecutive offset ls) {b : Block} (hb : b ∈ bs) :
    b.span.stop ≤ offset + Text.bytes (Line.join ls) := by
  obtain ⟨x, y, hjoin, hspan⟩ := h.exists_parts hc b hb
  rw [hspan, hjoin, Text.bytes_append, Text.bytes_append]
  simp only
  omega

end Splits

/-! ## Reading a block by itself -/

namespace Example

/-- Two readings of a block have the same outcome but for the index and the title in it. -/
def SameOutcome : Except Fault Example → Except Fault Example → Prop
  | .ok e, .ok f => e.code = f.code ∧ e.expected = f.expected ∧ e.form = f.form ∧ e.span = f.span
  | .error e, .error f => e.kind = f.kind ∧ e.span = f.span ∧ e.fileId = f.fileId
  | _, _ => False

theorem sameOutcome_ofParts (b : Block) (title : Text) (count : Nat) (code : List Line)
    (expected : Text) (form : ExampleForm) :
    SameOutcome (ofParts b code expected form)
      (ofParts (b.within title count) code expected form) := by
  unfold ofParts
  split
  · exact ⟨rfl, rfl, rfl⟩
  · exact ⟨rfl, rfl, rfl, rfl⟩

/-- **How a block is read depends on its text and its place alone.** -/
theorem sameOutcome_within (b : Block) (title : Text) (count : Nat) :
    SameOutcome (ofBlock b) (ofBlock (b.within title count)) := by
  unfold ofBlock
  simp only [Block.within]
  split
  · exact sameOutcome_ofParts b title count _ _ _
  · exact sameOutcome_ofParts b title count _ _ _
  · exact ⟨rfl, rfl, rfl⟩

end Example

/-! ## The lines of a section -/

namespace Section

/-- **The lines of a section are lines of the document**: those after its header that belong to
it. -/
theorem lines_opened {offset fileId : Nat} {h : Header} {before after : List Line} {l : Line}
    (hcut : Line.CutAt offset (before ++ l :: after)) :
    (opened fileId h l after).lines = after.takeWhile (continues h.depth) := by
  have hc := (Line.cutAt_iff.1 hcut).1
  have hstop := Line.stop_eq (Line.consecutive_append.1 hc).2.1
  rw [← List.singleton_append, ← List.append_assoc] at hcut
  have hafter := hcut.append.2
  rw [← List.takeWhile_append_dropWhile (p := continues h.depth) (l := after)] at hafter
  have hbody := hafter.append.1
  have hoffset : offset + Text.bytes (Line.join (before ++ [l])) = l.stop := by
    rw [Line.join_append, Text.bytes_append, hstop]
    simp [Nat.add_assoc]
  rw [hoffset] at hbody
  exact hbody

/-- A line that ends a section is a header. -/
theorem exists_header_of_not_continues {depth : Nat} {l : Line} (h : continues depth l = false) :
    ∃ g, Header.ofLine? l = some g ∧ g.depth ≤ depth := by
  cases hl : Header.ofLine? l with
  | none =>
    rw [continues_of_none hl] at h
    simp at h
  | some g =>
    rw [continues_of_some hl] at h
    exact ⟨g, rfl, by simpa using h⟩

/-- What belongs to a section belongs to each shallower one. -/
theorem continues_of_le {depth deeper : Nat} (hle : depth ≤ deeper) {l : Line}
    (h : continues deeper l = true) : continues depth l = true := by
  cases hl : Header.ofLine? l with
  | none => exact continues_of_none hl _
  | some g =>
    rw [continues_of_some hl, decide_eq_true_iff] at h ⊢
    omega

/-- A header closes a block, as every line does that starts with a character other than white
space. -/
theorem closes_of_header {l : Line} {h : Header} (hh : Header.ofLine? l = some h) : l.Closes := by
  obtain ⟨t, ht⟩ := List.head?_eq_some_iff.1 (Header.head?_of_ofLine? hh)
  exact ⟨'=', t, ht, by decide⟩

/-- The line of a header has a byte. -/
theorem start_lt_stop_of_header {l : Line} {h : Header} (hh : Header.ofLine? l = some h) :
    l.start < l.stop := by
  have hne : l.text ≠ [] := by
    intro hnil
    have hhead := Header.head?_of_ofLine? hh
    rw [hnil] at hhead
    simp at hhead
  have hpos := Text.bytes_pos_iff.2 hne
  have hle := l.bytes_text_le
  rw [Line.stop]
  omega

/-- The body stops where its last line stops. -/
theorem bodySpan_stop (s : Section) :
    s.bodySpan.stop = s.bodyOffset + Text.bytes (Line.join s.lines) := by
  rw [lines, Line.join_ofText, bodySpan]

/-! ## Two sections of a document -/

/-- The section `b` comes after the body of `a`. -/
def EndsBefore (a b : Section) : Prop :=
  a.bodySpan.stop ≤ b.headerSpan.start ∧ a.bodySpan.stop ≤ b.bodySpan.start

/-- The section `b` is deeper than `a`, and its header and its body lie inside the body of `a`. -/
structure Encloses (a b : Section) : Prop where
  depth_lt : a.depth < b.depth
  header : a.bodySpan.start ≤ b.headerSpan.start ∧ b.headerSpan.stop ≤ a.bodySpan.stop
  body : a.bodySpan.start ≤ b.bodySpan.start ∧ b.bodySpan.stop ≤ a.bodySpan.stop

/-- The later of two lines comes after the earlier one. -/
theorem exists_between {offset : Nat} {before after before' after' : List Line} {l l' : Line}
    (heq : before ++ l :: after = before' ++ l' :: after')
    (hc : Line.Consecutive offset (before ++ l :: after)) (hlt : l.start < l'.start) :
    ∃ between, after = between ++ l' :: after' := by
  rcases List.append_eq_append_iff.1 heq with ⟨between, -, hafter⟩ | ⟨between, -, hafter⟩
  · cases between with
    | nil =>
      obtain ⟨rfl, -⟩ := List.cons.inj hafter
      exact absurd hlt (Nat.lt_irrefl _)
    | cons m between => exact ⟨between, (List.cons.inj hafter).2⟩
  · have hl : l ∈ l' :: after' := by
      rw [hafter]
      simp
    rw [heq] at hc
    have hstart := (Line.consecutive_append.1 hc).2.1
    have hle := ((Line.consecutive_append.1 hc).2.bounds hl).1
    omega

/-- A section goes on past a header that belongs to it, or it has stopped before that header. -/
theorem takeWhile_continues_cases (depth : Nat) (between after : List Line) (l : Line) :
    (between ++ l :: after).takeWhile (continues depth) <+: between ∨
      continues depth l = true ∧ (between ++ l :: after).takeWhile (continues depth) =
        between ++ l :: after.takeWhile (continues depth) := by
  induction between with
  | nil =>
    by_cases hl : continues depth l = true
    · exact .inr ⟨hl, List.takeWhile_cons_of_pos hl⟩
    · exact .inl (by simp [List.takeWhile_cons_of_neg hl])
  | cons m between ih =>
    rw [List.cons_append]
    by_cases hm : continues depth m = true
    · rw [List.takeWhile_cons_of_pos hm]
      rcases ih with hprefix | ⟨hl, hwhole⟩
      · exact .inl ((List.prefix_cons_inj m).2 hprefix)
      · exact .inr ⟨hl, by rw [hwhole, List.cons_append]⟩
    · rw [List.takeWhile_cons_of_neg hm]
      exact .inl List.nil_prefix

/-- **A section goes on where a deeper one stops**, and the first line after the deeper one is a
header. -/
theorem takeWhile_continues_of_le {depth deeper : Nat} (hle : depth ≤ deeper) (ls : List Line) :
    ∃ rest, ls.takeWhile (continues depth) = ls.takeWhile (continues deeper) ++ rest ∧
      ∀ l ∈ rest.head?, l.Closes := by
  refine ⟨(ls.dropWhile (continues deeper)).takeWhile (continues depth), ?_, fun l hl => ?_⟩
  · have hall : ∀ l ∈ ls.takeWhile (continues deeper), continues depth l = true := fun l hl =>
      continues_of_le hle (List.mem_takeWhile_imp hl)
    rw [← List.takeWhile_append_of_pos hall, List.takeWhile_append_dropWhile]
  · rw [List.head?_takeWhile, Option.mem_def, Option.filter_eq_some_iff] at hl
    have hstop := List.head?_dropWhile_not (continues deeper) ls
    rw [hl.1] at hstop
    obtain ⟨g, hg, -⟩ := exists_header_of_not_continues hstop
    exact closes_of_header hg

/-- The sections `a` and `b` are those of two headers, the second of which, `h`, stands in the line
`l` of the body of the first: before it come the lines `between`, after the lines of `b` come the
lines `rest`. -/
structure Nested (a b : Section) (h : Header) (between : List Line) (l : Line)
    (rest : List Line) : Prop where
  header : Header.ofLine? l = some h
  deeper : a.depth < b.depth
  headerSpan_eq : b.headerSpan = h.span
  bodyOffset_eq : b.bodyOffset = l.stop
  fileId_eq : b.fileId = a.fileId
  lines_eq : a.lines = between ++ l :: (b.lines ++ rest)
  rest_closes : ∀ m ∈ rest.head?, m.Closes

namespace Nested

variable {a b : Section} {between rest : List Line} {l : Line} {h : Header}

/-- The inner header starts after the lines before it, and the lines after it start where it stops
and where the inner section stops. -/
theorem consecutive (hn : Nested a b h between l rest) :
    Line.Consecutive a.bodyOffset between ∧
      h.span.start = a.bodyOffset + Text.bytes (Line.join between) ∧
      Line.Consecutive b.bodySpan.stop rest := by
  have hc := a.consecutive_lines
  rw [hn.lines_eq] at hc
  obtain ⟨hbetween, hl, hafter⟩ := Line.consecutive_append.1 hc
  obtain ⟨-, hrest⟩ := Line.consecutive_append.1 hafter
  rw [bodySpan_stop, hn.bodyOffset_eq]
  exact ⟨hbetween, by rw [Header.start_of_ofLine? hn.header, hl], hrest⟩

theorem encloses (hn : Nested a b h between l rest) : a.Encloses b := by
  obtain ⟨-, hstart, -⟩ := hn.consecutive
  have hl := Header.start_of_ofLine? hn.header
  have hstop := Header.stop_of_ofLine? hn.header
  have htext := l.bytes_text_le
  have ha := a.bodySpan_stop
  have hb := b.bodySpan_stop
  have hlstop : l.stop = l.start + Text.bytes l.raw := rfl
  rw [hn.lines_eq] at ha
  simp only [Line.join_append, Line.join_cons, Text.bytes_append] at ha
  rw [hn.bodyOffset_eq] at hb
  refine ⟨hn.deeper, ?_, ?_⟩
  · rw [hn.headerSpan_eq]
    exact ⟨by simp only [bodySpan]; omega, by omega⟩
  · simp only [bodySpan, hn.bodyOffset_eq] at ha hb ⊢
    omega

/-- **The blocks of the inner section are among those of the outer one.** -/
theorem exists_blocks (hn : Nested a b h between l rest) :
    ∃ before after, a.blocks = before ++ b.blocks.map (Block.within a.name before.length) ++ after ∧
      (∀ x ∈ before, x.span.stop ≤ b.headerSpan.start) ∧
      ∀ x ∈ after, b.bodySpan.stop ≤ x.span.start := by
  obtain ⟨hbetween, hstart, hrest⟩ := hn.consecutive
  have hcloses := closes_of_header hn.header
  obtain ⟨before, hbefore⟩ : ∃ bs, Splits a.name a.fileId 0 between bs := ⟨_, splits_iff.2 rfl⟩
  obtain ⟨after, hafter⟩ : ∃ bs, Splits a.name a.fileId (before.length + b.blocks.length) rest bs :=
    ⟨_, splits_iff.2 rfl⟩
  have hinner := b.splits_blocks.within a.name before.length
  rw [hn.fileId_eq] at hinner
  have hfrom := hinner.append hn.rest_closes (by simpa using hafter)
  have hclose : ∀ m ∈ (l :: (b.lines ++ rest)).head?, m.Closes := by simpa using hcloses
  have hall := hbefore.append hclose (.pass (fun ho => ho.not_closes hcloses)
    (by simpa using hfrom))
  rw [← hn.lines_eq, ← List.append_assoc] at hall
  refine ⟨before, after, (splits_iff.1 hall).symm, fun x hx => ?_, fun x hx => ?_⟩
  · rw [hn.headerSpan_eq, hstart]
    exact hbefore.stop_le hbetween hx
  · exact hafter.offset_le hrest hx

end Nested

end Section

namespace Document

open Section

/-- **Sections nest.**  Of two sections of a document, the one with the later header comes after the
body of the other or lies inside it, deeper; never both, and never partly.  Inside, its blocks are
among those of the outer section, without a gap between them: they differ in nothing but the title
and the index, which goes up by the number of blocks before them, and reading one has the same
outcome either way. -/
theorem sections_nest {d : Document} {name name' : Text} {a b : Section}
    (ha : d.findSection name = .ok a) (hb : d.findSection name' = .ok b)
    (hab : a.headerSpan.start < b.headerSpan.start) :
    ¬ (a.EndsBefore b ∧ a.Encloses b) ∧
      (a.EndsBefore b ∨ a.Encloses b ∧ ∃ before after,
        a.blocks = before ++ b.blocks.map (Block.within a.name before.length) ++ after ∧
          (∀ x ∈ before, x.span.stop ≤ b.headerSpan.start) ∧
          (∀ x ∈ after, b.bodySpan.stop ≤ x.span.start) ∧
          ∀ x ∈ b.blocks, Example.SameOutcome (Example.ofBlock x)
            (Example.ofBlock (x.within a.name before.length))) := by
  obtain ⟨before, l, after, h, hls, hh, -, -, -, rfl⟩ :=
    find?_eq_some_iff.1 (findSection_eq_ok_iff.1 ha)
  obtain ⟨before', l', after', h', hls', hh', -, -, -, rfl⟩ :=
    find?_eq_some_iff.1 (findSection_eq_ok_iff.1 hb)
  have hstart : h'.span.start = l'.start := Header.start_of_ofLine? hh'
  have hlt : l.start < l'.start := by
    rw [← Header.start_of_ofLine? hh, ← hstart]
    exact hab
  have hcut : Line.CutAt 0 d.lines := Line.cutAt_ofText _ _
  have hcut' := hcut
  rw [hls] at hcut
  rw [hls'] at hcut'
  obtain ⟨between, rfl⟩ := exists_between (hls.symm.trans hls') (Line.cutAt_iff.1 hcut).1 hlt
  have houter : (opened d.fileId h l (between ++ l' :: after')).lines =
      (between ++ l' :: after').takeWhile (continues h.depth) := lines_opened hcut
  have hinner : (opened d.fileId h' l' after').lines = after'.takeWhile (continues h'.depth) :=
    lines_opened hcut'
  refine ⟨fun ⟨hends, hencloses⟩ => ?_, ?_⟩
  · have hheader := start_lt_stop_of_header hh'
    have hbefore := hends.1
    have hbody := hencloses.body.2
    simp only [opened, bodySpan] at hbefore hbody
    omega
  rcases takeWhile_continues_cases h.depth between after' l' with
    ⟨rest, hprefix⟩ | ⟨hdeeper, hwhole⟩
  · -- The outer section stops at a line before the inner header, or at that header.
    left
    have hbetween : l'.start = l.stop + Text.bytes (Line.join between) := by
      have hc := (Line.cutAt_iff.1 hcut).1
      exact (Line.consecutive_append.1 (Line.consecutive_append.1 hc).2.2).2.1
    have hstop := bodySpan_stop (opened d.fileId h l (between ++ l' :: after'))
    rw [houter] at hstop
    rw [← hprefix, Line.join_append, Text.bytes_append] at hbetween
    have hheader := start_lt_stop_of_header hh'
    constructor
    · rw [hstop]
      simp only [opened]
      omega
    · rw [hstop]
      simp only [opened, bodySpan]
      omega
  · right
    rw [continues_of_some hh', decide_eq_true_iff] at hdeeper
    obtain ⟨rest, hrest, hcloses⟩ := takeWhile_continues_of_le (Nat.le_of_lt hdeeper) after'
    have hn : Nested (opened d.fileId h l (between ++ l' :: after')) (opened d.fileId h' l' after')
        h' between l' rest :=
      ⟨hh', hdeeper, rfl, rfl, rfl, by rw [houter, hwhole, hrest, hinner], hcloses⟩
    obtain ⟨before, after, hblocks, hbefore, hafter⟩ := hn.exists_blocks
    exact ⟨hn.encloses, before, after, hblocks, hbefore, hafter, fun x _ =>
      Example.sameOutcome_within x _ _⟩

/-- Two sections of one document, the second of which goes on past a deeper header and stops at one
of its own depth, inside the first. -/
theorem sections_nest_past_deeper_header :
    let d := ofText (.ofText "notes".toList)
      "= A\n  p\n== B\n  q\n=== C\n  r\n== D\n  s\n= E\n  t\n".toList
    ∃ a b, d.findSection "A".toList = .ok a ∧ d.findSection "B".toList = .ok b ∧
      a.headerSpan.start < b.headerSpan.start ∧ a.Encloses b ∧ ∃ before after,
        a.blocks = before ++ b.blocks.map (Block.within a.name before.length) ++ after := by
  intro d
  have ha : d.findSection "A".toList = .ok ⟨"A".toList, 1, ⟨0, 3⟩,
      "  p\n== B\n  q\n=== C\n  r\n== D\n  s\n".toList, 4, 0⟩ := by decide +kernel
  have hb : d.findSection "B".toList = .ok ⟨"B".toList, 2, ⟨8, 12⟩,
      "  q\n=== C\n  r\n".toList, 13, 0⟩ := by decide +kernel
  have hab : (0 : Nat) < 8 := by decide
  refine ⟨_, _, ha, hb, hab, ?_⟩
  rcases (sections_nest ha hb hab).2 with hends | ⟨hencloses, before, after, hblocks, -⟩
  · exact absurd hends.1 (by decide +kernel)
  · exact ⟨hencloses, before, after, hblocks⟩

end Document
end Doctest
