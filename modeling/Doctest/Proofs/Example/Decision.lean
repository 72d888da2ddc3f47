/-
# What a block is read as

Counting the lines of a block that separate code from output decides what becomes of it:

| separators | first line | read as |
| ---: | --- | --- |
| 0 | | an example in the inline form |
| 1 | code | an example in the split form |
| 1 | the separator | the fault that there is no code |
| 2 or more | | the fault that the block is ambiguous |

`Example.Reads` says this as a relation, and what the code and the expected output of an example
are, in terms of the lines alone.  Reading a block of a section decides it (`Section.reads_iff`).
That the fault comes only of a separator in the first line rests on the grammar of blocks: the first
line of a block is not blank, so any code before a separator has a character that is not white
space.
-/

import Doctest.Proofs.Example.Spans
import Mathlib.Data.List.Forall2

namespace Doctest

/-! ## Kinds of lines -/

namespace Line

/-- The line separates code from output: two spaces, the marker, and nothing but white space. -/
def Separates (l : Line) : Prop :=
  ∃ t, l.text = "  #### output:".toList ++ t ∧ ∀ c ∈ t, Text.isBlankChar c = true

/-- The first character of the line that is not white space is a percent sign. -/
def ShowsCommand (l : Line) : Prop :=
  ∃ w t, l.raw = w ++ '%' :: t ∧ ∀ c ∈ w, Text.isBlankChar c = true

theorem isSeparator_iff_separates {l : Line} : Example.isSeparator l = true ↔ l.Separates := by
  rw [Example.isSeparator_iff, Separates]
  simp only [Text.isBlank_iff]
  rfl

theorem isShellLine_iff_showsCommand {l : Line} :
    Example.isShellLine l = true ↔ l.ShowsCommand := by
  rw [Example.isShellLine_iff, List.find?_eq_some_iff_append]
  constructor
  · rintro ⟨-, w, t, hraw, hw⟩
    exact ⟨w, t, hraw, fun c hc => by simpa using hw c hc⟩
  · rintro ⟨w, t, hraw, hw⟩
    exact ⟨rfl, w, t, hraw, fun c hc => by simpa using hw c hc⟩

instance : DecidablePred Separates := fun _ => decidable_of_iff _ isSeparator_iff_separates

instance : DecidablePred ShowsCommand := fun _ => decidable_of_iff _ isShellLine_iff_showsCommand

end Line

/-- Number of lines of the block that separate code from output. -/
def Block.separators (b : Block) : Nat := b.lines.countP (·.Separates)

namespace Example

/-! ## What is read of the lines -/

/-- The code in the lines: all of them one after the other, but for those that show commands. -/
def codeOf (ls : List Line) : Text := Line.join (ls.filter (¬ ·.ShowsCommand))

/-- A line of output as it is expected, without one unit of indentation if it has one. -/
def Unindents (t u : Text) : Prop := t = "  ".toList ++ u ∨ ¬ "  ".toList <+: t ∧ u = t

/-- What the lines claim: the text after the first marker of each line that has one, in order. -/
inductive Claims : List Line → List Text → Prop
  | nil : Claims [] []
  | skip {l : Line} {ls : List Line} {ts : List Text} : ¬ "# => ".toList <:+: l.text →
      Claims ls ts → Claims (l :: ls) ts
  | mark {l : Line} {t : Text} {ls : List Line} {ts : List Text} :
      Text.FollowsFirst "# => ".toList l.text t →
      Claims ls ts → Claims (l :: ls) (t :: ts)

/-- What a block is read as. -/
inductive Reads (b : Block) : Except Fault Example → Prop
  /-- The block is ambiguous, and the second separator shows it. -/
  | ambiguous {before between after : List Line} {first second : Line} :
      2 ≤ b.separators → b.lines = before ++ first :: (between ++ second :: after) →
      first.Separates → second.Separates → (∀ l ∈ before ++ between, ¬ l.Separates) →
      Reads b (.error ⟨.ambiguousBlock b.index b.title b.separators,
        ⟨second.start, second.start + Text.bytes second.text⟩, b.fileId⟩)
  /-- The only separator is the first line. -/
  | codeless {separator : Line} {output : List Line} :
      b.separators = 1 → b.lines = separator :: output → separator.Separates →
      Reads b (.error ⟨.emptyCode b.index b.title, b.span, b.fileId⟩)
  /-- The only separator comes after the code. -/
  | split {code output : List Line} {separator : Line} {expected : List Text} :
      b.separators = 1 → b.lines = code ++ separator :: output → separator.Separates → code ≠ [] →
      List.Forall₂ (fun l t => Unindents l.text t) output expected →
      Reads b (.ok ⟨b.index, codeOf code, Text.join ['\n'] expected, .split, b.span⟩)
  /-- There is no separator. -/
  | inline {expected : List Text} : b.separators = 0 → Claims b.lines expected →
      Reads b (.ok ⟨b.index, codeOf b.lines, Text.join ['\n'] expected, .inline, b.span⟩)

theorem runnable_eq_codeOf (ls : List Line) : runnable ls = codeOf ls := by
  rw [runnable, codeOf]
  congr 1
  refine List.filter_congr fun l _ => ?_
  rw [Bool.eq_iff_iff]
  simp [← Line.isShellLine_iff_showsCommand]

theorem unindents_iff {t u : Text} : Unindents t u ↔ u = unindent t := by
  unfold Unindents unindent
  cases h : Text.afterStart? indent t with
  | some rest =>
    obtain rfl := Text.afterStart?_eq_some_iff.1 h
    constructor
    · rintro (hu | ⟨hnone, -⟩)
      · exact (List.append_cancel_left hu).symm
      · exact absurd (List.prefix_append _ _) hnone
    · rintro rfl
      exact .inl rfl
  | none =>
    have hnone : ¬ indent <+: t := by
      rintro ⟨rest, rfl⟩
      rw [Text.afterStart?_eq_some_iff.2 rfl] at h
      cases h
    constructor
    · rintro (rfl | ⟨-, rfl⟩)
      · exact absurd (List.prefix_append _ _) hnone
      · rfl
    · rintro rfl
      exact .inr ⟨hnone, rfl⟩

theorem forall₂_unindents_iff {ls : List Line} {ts : List Text} :
    List.Forall₂ (fun l t => Unindents l.text t) ls ts ↔ ts = ls.map fun l => unindent l.text := by
  simp only [unindents_iff]
  induction ls generalizing ts with
  | nil => simp
  | cons l ls ih => simp [List.forall₂_cons_left_iff, ih]

theorem claims_iff {ls : List Line} {ts : List Text} :
    Claims ls ts ↔ ts = ls.filterMap fun l => Text.afterFirst? inlineMarker l.text := by
  constructor
  · intro h
    induction h with
    | nil => rfl
    | @skip l _ _ hl _ ih =>
      have hnone : Text.afterFirst? inlineMarker l.text = none := Text.afterFirst?_eq_none_iff.2 hl
      rw [List.filterMap_cons, hnone]
      exact ih
    | @mark l t _ _ hl _ ih =>
      have hsome : Text.afterFirst? inlineMarker l.text = some t :=
        Text.afterFirst?_eq_some_iff.2 hl
      rw [List.filterMap_cons, hsome, ih]
  · rintro rfl
    induction ls with
    | nil => exact .nil
    | cons l ls ih =>
      rw [List.filterMap_cons]
      cases h : Text.afterFirst? inlineMarker l.text with
      | none => exact .skip (Text.afterFirst?_eq_none_iff.1 h) ih
      | some t => exact .mark (Text.afterFirst?_eq_some_iff.1 h) ih

/-! ## Reading decides -/

section Reads

variable {b : Block} {first separator : Line} {more code output : List Line}

theorem separators_eq_countP (b : Block) : b.separators = b.lines.countP isSeparator := by
  refine List.countP_congr fun l _ => ?_
  rw [decide_eq_true_iff, Line.isSeparator_iff_separates]

/-- The one separator of a block is the only one. -/
theorem isSeparator_of_separators_eq_one (h : b.separators = 1)
    (hlines : b.lines = code ++ separator :: output) (hseparator : separator.Separates) :
    (∀ l ∈ code, isSeparator l = false) ∧ ∀ l ∈ output, isSeparator l = false := by
  rw [separators_eq_countP, hlines, List.countP_append,
    List.countP_cons_of_pos (Line.isSeparator_iff_separates.2 hseparator)] at h
  have hcode : code.countP isSeparator = 0 := by omega
  have houtput : output.countP isSeparator = 0 := by omega
  exact ⟨fun l hl => by simpa using List.countP_eq_zero.1 hcode l hl,
    fun l hl => by simpa using List.countP_eq_zero.1 houtput l hl⟩

/-- A block with two separators or more is ambiguous. -/
theorem ofBlock_of_separators {before between after : List Line} {x y : Line}
    (hlines : b.lines = before ++ x :: (between ++ y :: after)) (hx : x.Separates)
    (hy : y.Separates) (hnone : ∀ l ∈ before ++ between, ¬ l.Separates) :
    ofBlock b = .error (ambiguous b b.separators y) := by
  have hfilter : ∀ {ls : List Line}, (∀ l ∈ ls, ¬ l.Separates) → ls.filter isSeparator = [] :=
    fun hls => List.filter_eq_nil_iff.2 fun l hl hs =>
      hls l hl (Line.isSeparator_iff_separates.1 hs)
  have hall : (Line.ofText b.span.start b.text).filter isSeparator =
      x :: y :: after.filter isSeparator := by
    show b.lines.filter isSeparator = _
    rw [hlines, List.filter_append, List.filter_cons_of_pos (Line.isSeparator_iff_separates.2 hx),
      List.filter_append, List.filter_cons_of_pos (Line.isSeparator_iff_separates.2 hy),
      hfilter fun l hl => hnone l (List.mem_append_left _ hl),
      hfilter fun l hl => hnone l (List.mem_append_right _ hl)]
    rfl
  have hcount : b.separators = (after.filter isSeparator).length + 2 := by
    rw [separators_eq_countP, List.countP_eq_length_filter]
    exact congrArg List.length hall
  simp only [ofBlock, hall, hcount]

/-- Code that starts with the first line of a block is not blank. -/
theorem ofParts_of_opens (h : first.Opens) (expected : Text) (form : ExampleForm) :
    ofParts b (first :: more) expected form =
      .ok ⟨b.index, codeOf (first :: more), expected, form, b.span⟩ := by
  obtain ⟨c, t, htext, hc⟩ := h
  have hmem : c ∈ Line.join (first :: more) :=
    List.mem_append_left _ (first.text_prefix.subset (by simp [htext]))
  have hblank : Text.isBlank (Line.join (first :: more)) = false := by
    rw [← Bool.not_eq_true, Text.isBlank_iff]
    intro hall
    rw [hall c hmem] at hc
    cases hc
  rw [← runnable_eq_codeOf]
  exact ofParts_eq_ok_iff.2 ⟨hblank, rfl⟩

/-- **What a block is read as is what reading it gives.** -/
theorem ofBlock_of_reads {r : Except Fault Example} (hb : b.lines = first :: more)
    (hfirst : first.Opens) (h : Reads b r) : ofBlock b = r := by
  cases h with
  | @ambiguous before between after x y _ hlines hx hy hnone =>
    exact ofBlock_of_separators hlines hx hy hnone
  | @codeless separator output hcount hlines hseparator =>
    have hlines : b.lines = [] ++ separator :: output := hlines
    obtain ⟨hcode, houtput⟩ := isSeparator_of_separators_eq_one hcount hlines hseparator
    rw [ofBlock_of_separator hlines hcode (Line.isSeparator_iff_separates.2 hseparator) houtput]
    rfl
  | @split code output separator expected hcount hlines hseparator hcode hexpected =>
    obtain ⟨hbefore, houtput⟩ := isSeparator_of_separators_eq_one hcount hlines hseparator
    rw [ofBlock_of_separator hlines hbefore (Line.isSeparator_iff_separates.2 hseparator) houtput,
      forall₂_unindents_iff.1 hexpected]
    obtain ⟨l, code, rfl⟩ := List.exists_cons_of_ne_nil hcode
    rw [hb] at hlines
    obtain rfl : first = l := (List.cons.inj hlines).1
    exact ofParts_of_opens hfirst _ _
  | @inline expected hcount hexpected =>
    rw [separators_eq_countP, List.countP_eq_zero] at hcount
    rw [ofBlock_of_no_separator fun l hl => by simpa using hcount l hl]
    show ofParts b b.lines (inlineExpected b.lines) .inline = _
    rw [inlineExpected, ← claims_iff.1 hexpected, hb]
    exact ofParts_of_opens hfirst _ _

/-- Every block is read as something. -/
theorem exists_reads (b : Block) : ∃ r, Reads b r := by
  have hseparates : ∀ {l : Line}, isSeparator l = true → l.Separates :=
    Line.isSeparator_iff_separates.1
  have hcount : b.separators = (b.lines.filter isSeparator).length := by
    rw [separators_eq_countP, List.countP_eq_length_filter]
  generalize hfilter : b.lines.filter isSeparator = found at hcount
  match found with
  | [] => exact ⟨_, .inline hcount (claims_iff.2 rfl)⟩
  | [separator] =>
    obtain ⟨code, output, hlines, -, hseparator, -⟩ := List.filter_eq_cons_iff.1 hfilter
    cases code with
    | nil => exact ⟨_, .codeless hcount hlines (hseparates hseparator)⟩
    | cons l code =>
      exact ⟨_, .split hcount hlines (hseparates hseparator) (List.cons_ne_nil l code)
        (forall₂_unindents_iff.2 rfl)⟩
  | first :: second :: more =>
    obtain ⟨before, rest, hlines, hbefore, hfirst, hrest⟩ := List.filter_eq_cons_iff.1 hfilter
    obtain ⟨between, after, rfl, hbetween, hsecond, -⟩ := List.filter_eq_cons_iff.1 hrest
    have hnone : ∀ l ∈ before ++ between, ¬ l.Separates := fun l hl hs =>
      (List.mem_append.1 hl).elim
        (fun hl => hbefore l hl (Line.isSeparator_iff_separates.2 hs))
        (fun hl => hbetween l hl (Line.isSeparator_iff_separates.2 hs))
    exact ⟨_, .ambiguous (hcount ▸ Nat.le_add_left 2 _) hlines (hseparates hfirst)
      (hseparates hsecond) hnone⟩

end Reads

end Example

namespace Section

variable {s : Section} {b : Block}

/-- **A block of a section starts with the line that opens it**, and none of its lines closes it. -/
theorem lines_of_mem_blocks (hb : b ∈ s.blocks) :
    b.title = s.name ∧ (∀ l ∈ b.lines, ¬ l.Closes) ∧
      ∃ first more, b.lines = first :: more ∧ first.Opens := by
  obtain ⟨before, first, more, after, hls, hofLines, hopens, hcloses⟩ :=
    s.splits_blocks.exists_lines b hb
  have hcut := s.cutAt_lines
  rw [hls] at hcut
  obtain ⟨hlines, -⟩ := hcut.lines_ofLines s.name s.fileId b.index
  rw [← hofLines] at hlines
  refine ⟨by rw [hofLines]; rfl, ?_, first, more, hlines, hopens⟩
  rw [hlines]
  exact List.forall_mem_cons.2 ⟨hopens.not_closes, hcloses⟩

/-- The lines of a block are those of its text. -/
theorem isCut_lines (b : Block) : Text.IsCut (b.lines.map Line.raw) :=
  (Line.cutAt_iff.1 (Line.cutAt_ofText _ _)).2

end Section

namespace Example

/-- **Every line of the code is one of the lines of the block**, and shows no command: leaving out
lines neither joins nor cuts the others. -/
theorem exists_raw_of_mem_codeOf {ls : List Line} (hls : Text.IsCut (ls.map Line.raw))
    {offset : Nat} {l : Line} (hl : l ∈ Line.ofText offset (codeOf ls)) :
    ∃ m ∈ ls, ¬ m.ShowsCommand ∧ l.raw = m.raw := by
  have hkept : Text.IsCut ((ls.filter (¬ ·.ShowsCommand)).map Line.raw) :=
    hls.sublist (List.filter_sublist.map _)
  have hraw : (Line.ofText offset (codeOf ls)).map Line.raw =
      (ls.filter (¬ ·.ShowsCommand)).map Line.raw := by
    rw [Line.ofText, Line.map_raw_place, codeOf, Line.join, List.flatMap_def,
      hkept.rawLines_flatten]
  have hmem := List.mem_map_of_mem (f := Line.raw) hl
  rw [hraw] at hmem
  obtain ⟨m, hm, hmraw⟩ := List.mem_map.1 hmem
  obtain ⟨hm, hcommand⟩ := List.mem_filter.1 hm
  exact ⟨m, hm, by simpa using hcommand, hmraw.symm⟩

/-- **Leaving out commands again changes nothing.** -/
theorem runnable_codeOf {ls : List Line} (hls : Text.IsCut (ls.map Line.raw)) (offset : Nat) :
    runnable (Line.ofText offset (codeOf ls)) = codeOf ls := by
  rw [runnable_eq_join, Line.join_ofText]
  intro l hl
  obtain ⟨m, -, hcommand, hraw⟩ := exists_raw_of_mem_codeOf hls hl
  rw [← Bool.not_eq_true, isShellLine, hraw, ← isShellLine, Line.isShellLine_iff_showsCommand]
  exact hcommand

/-- The code of an example is that of the first lines of its block. -/
theorem Reads.exists_code {b : Block} {e : Example} (h : Reads b (.ok e)) :
    ∃ code rest, b.lines = code ++ rest ∧ e.code = codeOf code := by
  cases h with
  | @split code output separator _ _ hlines => exact ⟨code, separator :: output, hlines, rfl⟩
  | inline => exact ⟨b.lines, [], (List.append_nil _).symm, rfl⟩

end Example

namespace Section

variable {s : Section} {b : Block}

/-- **Counting separators decides what a block is read as.**  A block of a section is read as the
relation says, and as nothing else; the message of a fault tells the number of the block, the name
of the section and how many separators there are, if these are to blame.  The code of an example
holds no line that shows a command. -/
theorem reads_iff (hb : b ∈ s.blocks) :
    b.title = s.name ∧ (∀ r, Example.ofBlock b = r ↔ Example.Reads b r) ∧
      (∀ f, Example.ofBlock b = .error f → f.message =
        "parse error in example ".toList ++ Text.ofNat b.index ++ " of section `".toList ++
          s.name ++ "': ".toList ++ if 2 ≤ b.separators then
            Text.ofNat b.separators ++ " `#### output:` separators".toList
          else "no code before `#### output:`".toList) ∧
      ∀ e offset, Example.ofBlock b = .ok e →
        Example.runnable (Line.ofText offset e.code) = e.code := by
  obtain ⟨htitle, -, first, more, hlines, hopens⟩ := lines_of_mem_blocks hb
  have hreads : ∀ r, Example.ofBlock b = r ↔ Example.Reads b r := by
    intro r
    refine ⟨fun h => ?_, Example.ofBlock_of_reads hlines hopens⟩
    obtain ⟨r', hr'⟩ := Example.exists_reads b
    rw [← h, Example.ofBlock_of_reads hlines hopens hr']
    exact hr'
  refine ⟨htitle, hreads, fun f hf => ?_, fun e offset he => ?_⟩
  · cases (hreads _).1 hf with
    | ambiguous hcount =>
      rw [if_pos hcount, ← htitle, ← List.append_assoc]
      rfl
    | codeless hcount =>
      rw [if_neg (by omega), ← htitle]
      rfl
  · obtain ⟨code, rest, hcode, he⟩ := ((hreads _).1 he).exists_code
    have hcut := isCut_lines b
    rw [hcode, List.map_append] at hcut
    rw [he]
    exact Example.runnable_codeOf hcut.append.1 offset

/-- A block with a command, a marker and one separator. -/
theorem reads_iff_split :
    let s : Section := ⟨"A".toList, 1, ⟨0, 3⟩,
      "  % irb\n  p 1 # => 2\n\n  #### output:\n  1\n    2\n".toList, 4, 0⟩
    let b : Block := ⟨0, "A".toList, s.body, ⟨4, 51⟩, 0⟩
    b ∈ s.blocks ∧
      Example.Reads b
        (.ok ⟨0, "  p 1 # => 2\n\n".toList, "1\n  2".toList, .split, ⟨4, 51⟩⟩) := by
  intro s b
  have hb : b ∈ s.blocks := by decide +kernel
  exact ⟨hb, ((reads_iff hb).2.1 _).1 (by decide +kernel)⟩

end Section
end Doctest
