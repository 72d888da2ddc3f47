/-
# The grammar of example blocks

Read in one pass, the lines of a section fall into lines outside of blocks and blocks:

| | first line | then | end |
| --- | --- | --- | --- |
| outside | does not open a block | | |
| block | opens a block | lines that do not close it | a line that closes it, or the last line |

The text of a block leaves out the blank lines at its end.  `Splits` is this grammar as a relation
between lines and blocks.  It says which list of blocks belongs to the lines without a word on how
one finds it, and the reader of blocks finds that list and no other (`splits_iff`).
-/

import Doctest.Example.Block
import Doctest.Proofs.Document.Lines
import Doctest.Proofs.Text.Lines
import Mathlib.Data.List.TakeWhile

namespace Doctest

/-! ## Kinds of lines -/

namespace Line

/-- The line is two spaces and then a character that is not white space. -/
def Opens (l : Line) : Prop := ∃ c t, l.text = ' ' :: ' ' :: c :: t ∧ Text.isBlankChar c = false

/-- The first character of the line is there and is not white space. -/
def Closes (l : Line) : Prop := ∃ c t, l.text = c :: t ∧ Text.isBlankChar c = false

/-- The line holds white space only. -/
def Blank (l : Line) : Prop := ∀ c ∈ l.text, Text.isBlankChar c = true

theorem opensBlock_iff {l : Line} : l.opensBlock = true ↔ l.Opens := by
  unfold opensBlock Opens
  constructor
  · intro h
    split at h
    · rename_i rest hrest
      obtain ⟨c, t, rfl, hc⟩ := Text.startsSolid_iff.1 h
      exact ⟨c, t, Text.afterStart?_eq_some_iff.1 hrest, hc⟩
    · simp at h
  · rintro ⟨c, t, ht, hc⟩
    have : Text.afterStart? indent l.text = some (c :: t) := Text.afterStart?_eq_some_iff.2 ht
    rw [this]
    exact Text.startsSolid_iff.2 ⟨c, t, rfl, hc⟩

theorem closesBlock_iff {l : Line} : l.closesBlock = true ↔ l.Closes := Text.startsSolid_iff

theorem isBlank_iff {l : Line} : l.isBlank = true ↔ l.Blank := Text.isBlank_iff

/-- A line that opens a block starts with a space. -/
theorem Opens.not_closes {l : Line} (h : l.Opens) : ¬ l.Closes := by
  obtain ⟨c, t, ht, -⟩ := h
  rintro ⟨d, u, hu, hd⟩
  rw [ht] at hu
  obtain ⟨rfl, -⟩ := List.cons.inj hu
  revert hd
  decide

theorem Opens.not_blank {l : Line} (h : l.Opens) : ¬ l.Blank := by
  obtain ⟨c, t, ht, hc⟩ := h
  intro hb
  have := hb c (by simp [ht])
  rw [this] at hc
  simp at hc

theorem Blank.not_closes {l : Line} (h : l.Blank) : ¬ l.Closes := by
  rintro ⟨c, t, ht, hc⟩
  have := h c (by simp [ht])
  rw [this] at hc
  simp at hc

/-- A line that opens a block has a character, so it has a byte. -/
theorem Opens.start_lt_stop {l : Line} (h : l.Opens) : l.start < l.stop := by
  obtain ⟨c, t, ht, -⟩ := h
  have hraw : l.raw ≠ [] := by
    intro e
    rw [text, e] at ht
    simp [Text.stripTerminators, Text.trimEndWhile] at ht
  have := Text.bytes_pos_iff.2 hraw
  rw [stop]
  omega

/-- The lines split off at the end are blank. -/
theorem exists_blank_end (ls : List Line) :
    ∃ blank, ls = dropBlankEnd ls ++ blank ∧ ∀ l ∈ blank, l.Blank := by
  refine ⟨(ls.reverse.takeWhile isBlank).reverse, ?_, fun l hl => ?_⟩
  · rw [dropBlankEnd, ← List.reverse_append, List.takeWhile_append_dropWhile, List.reverse_reverse]
  · exact isBlank_iff.1 (List.mem_takeWhile_imp (List.mem_reverse.1 hl))

/-- The last line that is kept is not blank. -/
theorem not_blank_getLast_dropBlankEnd (ls : List Line) :
    ∀ l ∈ (dropBlankEnd ls).getLast?, ¬ l.Blank := by
  intro l hl hb
  rw [dropBlankEnd, List.getLast?_reverse] at hl
  have h := List.head?_dropWhile_not isBlank ls.reverse
  rw [Option.mem_def.1 hl] at h
  have hl' : l.isBlank = false := h
  rw [isBlank_iff.2 hb] at hl'
  simp at hl'

/-- **Only the blank lines at the end go.** -/
theorem dropBlankEnd_append {kept blank : List Line} (hblank : ∀ l ∈ blank, l.Blank)
    (hlast : ∀ l ∈ kept.getLast?, ¬ l.Blank) : dropBlankEnd (kept ++ blank) = kept := by
  have hb : ∀ l ∈ blank.reverse, l.isBlank = true := fun l hl =>
    isBlank_iff.2 (hblank l (List.mem_reverse.1 hl))
  rw [dropBlankEnd, List.reverse_append, List.dropWhile_append_of_pos hb]
  rcases List.eq_nil_or_concat kept with rfl | ⟨init, l, rfl⟩
  · rfl
  · rw [List.concat_eq_append] at hlast ⊢
    have hl : ¬ l.isBlank = true := fun h => hlast l (by simp) (isBlank_iff.1 h)
    rw [List.reverse_append, List.reverse_singleton, List.singleton_append,
      List.dropWhile_cons_of_neg hl]
    simp

end Line

/-! ## The relation -/

/-- The block that the line `first` and the lines `more` after it make up. -/
def Block.ofLines (title : Text) (fileId index : Nat) (first : Line) (more : List Line) : Block :=
  ⟨index, title, Line.join (first :: more),
    ⟨first.start, first.start + Text.bytes (Line.join (first :: more))⟩, fileId⟩

/-- The lines of a block at the head of the lines of a section: `first` opens it, the lines `more`
belong to it, the lines `blank` are left out at its end, and the first of the lines `rest`, if there
is one, closes it. -/
structure BlockRun (first : Line) (more blank rest : List Line) : Prop where
  opens : first.Opens
  not_closes : ∀ l ∈ more ++ blank, ¬ l.Closes
  last_not_blank : ∀ l ∈ (first :: more).getLast?, ¬ l.Blank
  blank : ∀ l ∈ blank, l.Blank
  closes : ∀ l ∈ rest.head?, l.Closes

/-- The blocks of a run of lines, numbered from an index on.  A line that does not open a block is
passed over; a line that does is the first line of one. -/
inductive Splits (title : Text) (fileId : Nat) : Nat → List Line → List Block → Prop
  | done {index : Nat} : Splits title fileId index [] []
  | pass {index : Nat} {l : Line} {ls : List Line} {bs : List Block} :
      ¬ l.Opens → Splits title fileId index ls bs → Splits title fileId index (l :: ls) bs
  | block {index : Nat} {first : Line} {more blank rest : List Line} {bs : List Block} :
      BlockRun first more blank rest → Splits title fileId (index + 1) rest bs →
      Splits title fileId index (first :: (more ++ blank ++ rest))
        (Block.ofLines title fileId index first more :: bs)

/-- Lines that open no block are passed over. -/
theorem Splits.pass_append {title : Text} {fileId index : Nat} {outside ls : List Line}
    {bs : List Block} (h : ∀ l ∈ outside, ¬ l.Opens) (hs : Splits title fileId index ls bs) :
    Splits title fileId index (outside ++ ls) bs := by
  induction outside with
  | nil => exact hs
  | cons l outside ih =>
    rw [List.forall_mem_cons] at h
    exact .pass h.1 (ih h.2)

/-- **Every line that opens a block is the first of the lines of one.** -/
theorem exists_blockRun {first : Line} (h : first.Opens) (ls : List Line) :
    ∃ more blank rest, ls = more ++ blank ++ rest ∧ BlockRun first more blank rest := by
  obtain ⟨blank, hinside, hblank⟩ := Line.exists_blank_end (ls.takeWhile (!Line.closesBlock ·))
  refine ⟨Line.dropBlankEnd (ls.takeWhile (!Line.closesBlock ·)), blank,
    ls.dropWhile (!Line.closesBlock ·), ?_, h, ?_, ?_, hblank, ?_⟩
  · rw [← hinside, List.takeWhile_append_dropWhile]
  · intro l hl hc
    rw [← hinside] at hl
    have hp := List.mem_takeWhile_imp hl
    rw [Line.closesBlock_iff.2 hc] at hp
    simp at hp
  · intro l hl
    rw [List.getLast?_cons] at hl
    cases hk : (Line.dropBlankEnd (ls.takeWhile (!Line.closesBlock ·))).getLast? with
    | none =>
      rw [hk] at hl
      obtain rfl := Option.some.inj hl
      exact h.not_blank
    | some m =>
      rw [hk] at hl
      obtain rfl := Option.some.inj hl
      exact Line.not_blank_getLast_dropBlankEnd _ _ hk
  · intro l hl
    have hp := List.head?_dropWhile_not (!Line.closesBlock ·) ls
    rw [Option.mem_def.1 hl] at hp
    exact Line.closesBlock_iff.1 (by simpa using hp)

/-! ## The reader follows the grammar -/

namespace BlockReader

variable {title : Text} {fileId index : Nat}

/-- The blocks are the next one and those of the reader past it. -/
theorem toList_eq (r : BlockReader) :
    r.toList = match r.next? with
      | none => []
      | some (b, r') => b :: r'.toList := by
  rw [toList]
  split <;> rename_i h <;> rw [h]

@[simp] theorem toList_nil : toList ⟨title, fileId, [], index⟩ = [] := by
  rw [toList_eq]
  rfl

/-- A line outside of blocks changes nothing. -/
theorem toList_pass {l : Line} (h : ¬ l.Opens) (ls : List Line) :
    toList ⟨title, fileId, l :: ls, index⟩ = toList ⟨title, fileId, ls, index⟩ := by
  have hl : (!l.opensBlock) = true := by simpa [← Line.opensBlock_iff] using h
  have hnext : next? ⟨title, fileId, l :: ls, index⟩ = next? ⟨title, fileId, ls, index⟩ := by
    unfold next?
    rw [List.dropWhile_cons_of_pos (p := (!Line.opensBlock ·)) hl]
    rfl
  rw [toList_eq, hnext, ← toList_eq]

/-- **A line that opens a block is read up to the next line that closes it.**  That line is not
unread afterwards, but as it opens no block this makes no difference. -/
theorem toList_open {first : Line} (h : first.Opens) (ls : List Line) :
    toList ⟨title, fileId, first :: ls, index⟩ =
      Block.ofLines title fileId index first
          (Line.dropBlankEnd (ls.takeWhile (!Line.closesBlock ·))) ::
        toList ⟨title, fileId, ls.dropWhile (!Line.closesBlock ·), index + 1⟩ := by
  have hfirst : ¬ (!first.opensBlock) = true := by simpa [← Line.opensBlock_iff] using h
  have hdrop : ls.drop (ls.takeWhile (!Line.closesBlock ·)).length =
      ls.dropWhile (!Line.closesBlock ·) := by
    have : ((ls.takeWhile (!Line.closesBlock ·)) ++ ls.dropWhile (!Line.closesBlock ·)).drop
        (ls.takeWhile (!Line.closesBlock ·)).length = ls.dropWhile (!Line.closesBlock ·) :=
      List.drop_left' rfl
    rwa [List.takeWhile_append_dropWhile] at this
  have hnext : next? ⟨title, fileId, first :: ls, index⟩ =
      some (Block.ofLines title fileId index first
          (Line.dropBlankEnd (ls.takeWhile (!Line.closesBlock ·))),
        ⟨title, fileId, (ls.dropWhile (!Line.closesBlock ·)).drop 1, index + 1⟩) := by
    unfold next?
    rw [List.dropWhile_cons_of_neg (p := (!Line.opensBlock ·)) hfirst]
    simp only [hdrop]
    rfl
  rw [toList_eq, hnext]
  refine congrArg (List.cons _) ?_
  -- The first line left over closes the block, so it is passed over.
  cases hr : ls.dropWhile (!Line.closesBlock ·) with
  | nil => rfl
  | cons l rest =>
    have hl := List.head?_dropWhile_not (!Line.closesBlock ·) ls
    rw [hr] at hl
    have hcloses : l.Closes := Line.closesBlock_iff.1 (by simpa using hl)
    exact (toList_pass (fun ho => ho.not_closes hcloses) rest).symm

/-- The same in the words of the grammar: the reader takes the lines of the block as one. -/
theorem toList_block {first : Line} {more blank rest : List Line}
    (h : BlockRun first more blank rest) :
    toList ⟨title, fileId, first :: (more ++ blank ++ rest), index⟩ =
      Block.ofLines title fileId index first more :: toList ⟨title, fileId, rest, index + 1⟩ := by
  have hp : ∀ l ∈ more ++ blank, (!Line.closesBlock l) = true := by
    intro l hl
    have := h.not_closes l hl
    rw [← Line.closesBlock_iff] at this
    simpa using this
  have hlast : ∀ l ∈ more.getLast?, ¬ l.Blank := by
    intro l hl
    refine h.last_not_blank l ?_
    rw [List.getLast?_cons, Option.mem_def.1 hl]
    rfl
  have hrest : rest.takeWhile (!Line.closesBlock ·) = [] ∧
      rest.dropWhile (!Line.closesBlock ·) = rest := by
    cases rest with
    | nil => exact ⟨rfl, rfl⟩
    | cons l rest =>
      have hl : ¬ (!Line.closesBlock l) = true := by
        simpa using Line.closesBlock_iff.2 (h.closes l rfl)
      exact ⟨List.takeWhile_cons_of_neg hl, List.dropWhile_cons_of_neg hl⟩
  rw [toList_open h.opens, List.takeWhile_append_of_pos hp, List.dropWhile_append_of_pos hp,
    hrest.1, hrest.2, List.append_nil, Line.dropBlankEnd_append h.blank hlast]

/-- The blocks that the reader finds satisfy the grammar.  The recursion is on the lines left, which
an opening line cuts down to those past the block. -/
theorem splits_toList (ls : List Line) (index : Nat) :
    Splits title fileId index ls (toList ⟨title, fileId, ls, index⟩) := by
  match ls with
  | [] =>
    rw [toList_nil]
    exact .done
  | first :: ls =>
    by_cases h : first.Opens
    · obtain ⟨more, blank, rest, rfl, hrun⟩ := exists_blockRun h ls
      rw [toList_block hrun]
      exact .block hrun (splits_toList rest (index + 1))
    · rw [toList_pass h]
      exact .pass h (splits_toList ls index)
termination_by ls.length

/-- Blocks that satisfy the grammar are the ones that the reader finds. -/
theorem eq_toList_of_splits {ls : List Line} {bs : List Block}
    (h : Splits title fileId index ls bs) : bs = toList ⟨title, fileId, ls, index⟩ := by
  induction h with
  | done => exact toList_nil.symm
  | pass hl _ ih => rw [ih, toList_pass hl]
  | block hrun _ ih => rw [ih, toList_block hrun]

end BlockReader

/-- **The reader of blocks finds what the grammar says**, and the grammar leaves no choice. -/
theorem splits_iff {title : Text} {fileId index : Nat} {ls : List Line} {bs : List Block} :
    Splits title fileId index ls bs ↔ bs = BlockReader.toList ⟨title, fileId, ls, index⟩ :=
  ⟨BlockReader.eq_toList_of_splits, fun h => h ▸ BlockReader.splits_toList ls index⟩

end Doctest
