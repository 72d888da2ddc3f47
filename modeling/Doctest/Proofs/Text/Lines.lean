/-
# Texts cut into lines

Cutting a text after its line feeds undoes writing lines one after the other (`rawLines_unlines`),
and dropping the terminators of a written line gives the line back (`stripTerminators_line`).
-/

import Doctest.Text.Blank
import Mathlib.Data.List.TakeWhile

namespace Doctest
namespace Text

/-- The lines written one after the other, each ended by a line feed. -/
def unlines (ls : List Text) : Text := ls.flatMap (· ++ ['\n'])

@[simp] theorem unlines_nil : unlines [] = [] := rfl

@[simp] theorem unlines_cons (l : Text) (ls : List Text) :
    unlines (l :: ls) = l ++ '\n' :: unlines ls := by
  simp [unlines]

@[simp] theorem unlines_append (ls ms : List Text) :
    unlines (ls ++ ms) = unlines ls ++ unlines ms :=
  List.flatMap_append

/-- The first line feed ends the first line. -/
theorem rawLines_append_newline {l : Text} (h : '\n' ∉ l) (t : Text) :
    rawLines (l ++ '\n' :: t) = (l ++ ['\n']) :: rawLines t := by
  induction l with
  | nil => simp [rawLines]
  | cons c l ih =>
    have hc : c ≠ '\n' := fun e => h (e ▸ List.mem_cons_self)
    have hl : '\n' ∉ l := fun m => h (List.mem_cons_of_mem _ m)
    rw [List.cons_append, rawLines, if_neg hc, ih hl]
    rfl

/-- **Written lines are cut where they were ended**, whatever text follows them. -/
theorem rawLines_unlines_append {ls : List Text} (h : ∀ l ∈ ls, '\n' ∉ l) (t : Text) :
    rawLines (unlines ls ++ t) = ls.map (· ++ ['\n']) ++ rawLines t := by
  induction ls with
  | nil => rfl
  | cons l ls ih =>
    have hl : '\n' ∉ l := h l List.mem_cons_self
    have hls : ∀ m ∈ ls, '\n' ∉ m := fun m hm => h m (List.mem_cons_of_mem _ hm)
    rw [unlines_cons, List.append_assoc, List.cons_append, rawLines_append_newline hl, ih hls]
    rfl

theorem rawLines_unlines {ls : List Text} (h : ∀ l ∈ ls, '\n' ∉ l) :
    rawLines (unlines ls) = ls.map (· ++ ['\n']) := by
  simpa [rawLines] using rawLines_unlines_append h []

/-- A text without a line feed is one line. -/
theorem rawLines_of_not_mem {l : Text} (hne : l ≠ []) (hl : '\n' ∉ l) : rawLines l = [l] := by
  induction l with
  | nil => exact absurd rfl hne
  | cons c l ih =>
    obtain ⟨hc, hl⟩ := List.ne_and_not_mem_of_not_mem_cons hl
    rw [rawLines, if_neg (Ne.symm hc)]
    by_cases hnil : l = []
    · rw [hnil]
      rfl
    · rw [ih hnil hl]

/-- The text is made of whole lines: its last character, if it has one, is a line feed. -/
def EndsLine (t : Text) : Prop := ∀ c ∈ t.getLast?, c = '\n'

instance : DecidablePred EndsLine := fun t =>
  decidable_of_iff (t.getLast?.all (· = '\n') = true) (by
    cases h : t.getLast? <;> simp [EndsLine, h])

theorem endsLine_newline (t : Text) : EndsLine (t ++ ['\n']) := by
  simp [EndsLine]

/-- **Whole lines are cut on their own**, whatever text follows them. -/
theorem rawLines_append {s : Text} (h : s.EndsLine) (t : Text) :
    rawLines (s ++ t) = rawLines s ++ rawLines t := by
  induction s with
  | nil => rfl
  | cons c s ih =>
    rw [List.cons_append, rawLines, rawLines]
    by_cases hc : c = '\n'
    · have hs : EndsLine s := by
        intro d hd
        exact h d (by rw [List.getLast?_cons, Option.mem_def.1 hd]; rfl)
      rw [if_pos hc, if_pos hc, ih hs, List.cons_append]
    · rw [if_neg hc, if_neg hc]
      cases s with
      | nil => exact absurd (h c rfl) hc
      | cons d s =>
        rw [ih fun e he => h e (by rwa [List.getLast?_cons_cons])]
        cases hlines : rawLines (d :: s) with
        | nil =>
          have hflatten := flatten_rawLines (d :: s)
          rw [hlines] at hflatten
          cases hflatten
        | cons l ls => rfl

/-- Pieces as a text is cut into: each ends in its only line feed, but for the last one, which may
have none if it is not empty. -/
inductive IsCut : List Text → Prop
  | nil : IsCut []
  | last {l : Text} : l ≠ [] → '\n' ∉ l → IsCut [l]
  | line {l : Text} {ls : List Text} : '\n' ∉ l → IsCut ls → IsCut ((l ++ ['\n']) :: ls)

/-- **A text is cut into such pieces.** -/
theorem isCut_rawLines (t : Text) : IsCut (rawLines t) := by
  induction t with
  | nil => exact .nil
  | cons c t ih =>
    rw [rawLines]
    split
    · rename_i hc
      subst hc
      exact .line (l := []) List.not_mem_nil ih
    · rename_i hc
      -- The character goes to the front of the first piece.
      have hcons : ∀ l : Text, '\n' ∉ l → '\n' ∉ c :: l := fun _ hl =>
        List.not_mem_cons_of_ne_of_not_mem (Ne.symm hc) hl
      generalize rawLines t = rs at ih ⊢
      cases ih with
      | nil => exact .last (by simp) (hcons [] List.not_mem_nil)
      | last _ hl => exact .last (by simp) (hcons _ hl)
      | line hl hls => exact .line (hcons _ hl) hls

/-- **Such pieces are those that their text is cut into.** -/
theorem IsCut.rawLines_flatten {ls : List Text} (h : IsCut ls) : rawLines ls.flatten = ls := by
  induction h with
  | nil => rfl
  | last hne hl => rw [List.flatten_singleton, rawLines_of_not_mem hne hl]
  | line hl _ ih =>
    rw [List.flatten_cons, List.append_assoc, List.singleton_append, rawLines_append_newline hl, ih]

/-- Each of two runs of such pieces is a run of such pieces. -/
theorem IsCut.append {ls ms : List Text} (h : IsCut (ls ++ ms)) : IsCut ls ∧ IsCut ms := by
  induction ls with
  | nil => exact ⟨.nil, h⟩
  | cons l ls ih =>
    rw [List.cons_append] at h
    generalize hls : ls ++ ms = rest at h
    cases h with
    | last hne hl =>
      obtain ⟨rfl, rfl⟩ := List.append_eq_nil_iff.1 hls
      exact ⟨.last hne hl, .nil⟩
    | line hl hrest =>
      obtain ⟨hls, hms⟩ := ih (hls ▸ hrest)
      exact ⟨.line hl hls, hms⟩

/-- Some of the pieces of a text are the pieces of another text. -/
theorem IsCut.sublist {ls ms : List Text} (h : IsCut ls) (hms : ms.Sublist ls) : IsCut ms := by
  induction h generalizing ms with
  | nil =>
    obtain rfl := List.sublist_nil.1 hms
    exact .nil
  | last hne hl =>
    cases hms with
    | cons _ hms =>
      obtain rfl := List.sublist_nil.1 hms
      exact .nil
    | cons_cons _ hms =>
      obtain rfl := List.sublist_nil.1 hms
      exact .last hne hl
  | line hl _ ih =>
    cases hms with
    | cons _ hms => exact ih hms
    | cons_cons _ hms => exact .line hl (ih hms)

/-- A single piece of a text is a piece. -/
theorem IsCut.of_mem {ls : List Text} (h : IsCut ls) {l : Text} (hl : l ∈ ls) : IsCut [l] := by
  obtain ⟨before, after, rfl⟩ := List.append_of_mem hl
  rw [List.append_cons] at h
  exact h.append.1.append.2

/-- Every piece before another one ends in its only line feed. -/
theorem IsCut.exists_line {ls ms : List Text} (h : IsCut (ls ++ ms)) (hms : ms ≠ []) :
    ∀ l ∈ ls, ∃ t, l = t ++ ['\n'] ∧ '\n' ∉ t := by
  induction ls with
  | nil => simp
  | cons l ls ih =>
    rw [List.cons_append] at h
    generalize hrest : ls ++ ms = rest at h
    cases h with
    | last _ _ => exact absurd (List.append_eq_nil_iff.1 hrest).2 hms
    | @line t _ ht h => exact List.forall_mem_cons.2 ⟨⟨t, rfl, ht⟩, ih (hrest ▸ h)⟩

/-- So there are as many line feeds before a piece as there are pieces. -/
theorem IsCut.count_newline {ls ms : List Text} (h : IsCut (ls ++ ms)) (hms : ms ≠ []) :
    ls.flatten.count '\n' = ls.length := by
  have hone : ∀ l ∈ ls, l.count '\n' = 1 := by
    intro l hl
    obtain ⟨t, rfl, ht⟩ := h.exists_line hms l hl
    rw [List.count_append, List.count_eq_zero_of_not_mem ht]
    rfl
  rw [List.count_flatten, List.map_congr_left hone, List.map_const']
  simp

/-- The last character goes if it satisfies `p`, and then so does the end before it. -/
theorem trimEndWhile_concat (p : Char → Bool) (t : Text) (c : Char) :
    trimEndWhile p (t ++ [c]) = if p c = true then trimEndWhile p t else t ++ [c] := by
  unfold trimEndWhile
  rw [List.reverse_append, List.reverse_singleton, List.singleton_append, List.dropWhile_cons]
  split
  · rfl
  · simp

/-- What is left when the end goes is the start of the text. -/
theorem trimEndWhile_isPrefix (p : Char → Bool) (t : Text) : trimEndWhile p t <+: t := by
  have hsuffix : t.reverse.dropWhile p <:+ t.reverse := List.dropWhile_suffix p
  rwa [← List.reverse_prefix, List.reverse_reverse] at hsuffix

/-- Only characters that satisfy `p` go. -/
theorem exists_trimEndWhile_append (p : Char → Bool) (t : Text) :
    ∃ e, t = trimEndWhile p t ++ e ∧ ∀ c ∈ e, p c = true := by
  refine ⟨(t.reverse.takeWhile p).reverse, ?_, fun c hc => ?_⟩
  · rw [trimEndWhile, ← List.reverse_append, List.takeWhile_append_dropWhile, List.reverse_reverse]
  · exact List.mem_takeWhile_imp (List.mem_reverse.1 hc)

/-- A text whose last character stays is left as it is. -/
theorem trimEndWhile_eq_self {p : Char → Bool} {t : Text} (h : ∀ c ∈ t.getLast?, p c = false) :
    trimEndWhile p t = t := by
  rcases List.eq_nil_or_concat t with rfl | ⟨t, c, rfl⟩
  · rfl
  · rw [List.concat_eq_append] at h ⊢
    have hc : p c = false := h c (by simp)
    rw [trimEndWhile_concat, if_neg (by simp [hc])]

/-- The line feed that ends a line goes. -/
theorem stripTerminators_newline (l : Text) :
    stripTerminators (l ++ ['\n']) = stripTerminators l := by
  have hnl : isTerminator '\n' = true := rfl
  rw [stripTerminators, trimEndWhile_concat, if_pos hnl]
  rfl

/-- A line without its terminator has no line feed. -/
theorem IsCut.newline_not_mem_stripTerminators {l : Text} (h : IsCut [l]) :
    '\n' ∉ stripTerminators l := by
  have hsub : ∀ t : Text, '\n' ∉ t → '\n' ∉ stripTerminators t := fun t ht hmem =>
    ht (List.IsPrefix.subset (trimEndWhile_isPrefix isTerminator t) hmem)
  cases h with
  | last _ hl => exact hsub _ hl
  | @line t _ ht _ =>
    rw [stripTerminators_newline]
    exact hsub t ht

/-- The last character that is left does not satisfy `p`. -/
theorem getLast?_trimEndWhile (p : Char → Bool) (t : Text) :
    ∀ c ∈ (trimEndWhile p t).getLast?, p c = false := by
  intro c hc
  rw [trimEndWhile, List.getLast?_reverse] at hc
  have hstop := List.head?_dropWhile_not p t.reverse
  rw [Option.mem_def.1 hc] at hstop
  exact hstop

/-- The last character of a line without its terminator is none. -/
theorem isTerminator_getLast?_stripTerminators (l : Text) :
    ∀ c ∈ (stripTerminators l).getLast?, isTerminator c = false :=
  getLast?_trimEndWhile isTerminator l

/-- **A written line without its terminator is the line**, unless it ends in a terminator itself. -/
theorem stripTerminators_line {l : Text} (h : ∀ c ∈ l.getLast?, isTerminator c = false) :
    stripTerminators (l ++ ['\n']) = l := by
  have hnl : isTerminator '\n' = true := rfl
  rw [stripTerminators, trimEndWhile_concat, if_pos hnl]
  exact trimEndWhile_eq_self h

/-- A text that can be written as one line: no line feed and no carriage return is in it. -/
def IsLine (t : Text) : Prop := '\n' ∉ t ∧ '\r' ∉ t

theorem IsLine.getLast? {t : Text} (h : IsLine t) : ∀ c ∈ t.getLast?, isTerminator c = false := by
  intro c hc
  have hmem : c ∈ t := List.mem_of_getLast? hc
  have hn : c ≠ '\n' := fun e => h.1 (e ▸ hmem)
  have hr : c ≠ '\r' := fun e => h.2 (e ▸ hmem)
  simp [isTerminator, hn, hr]

/-- A text whose last character is not white space does not end in a terminator. -/
theorem isTerminator_of_not_blank {c : Char} (h : isBlankChar c = false) :
    isTerminator c = false := by
  have hn : c ≠ '\n' := by
    rintro rfl
    exact absurd h (by decide)
  have hr : c ≠ '\r' := by
    rintro rfl
    exact absurd h (by decide)
  simp [isTerminator, hn, hr]

theorem startsSolid_iff {t : Text} :
    startsSolid t = true ↔ ∃ c r, t = c :: r ∧ isBlankChar c = false := by
  cases t <;> simp [startsSolid]

theorem isBlank_iff {t : Text} : isBlank t = true ↔ ∀ c ∈ t, isBlankChar c = true := by
  simp [isBlank]

/-! ## Ends of texts -/

theorem beforeEnd?_eq_some_iff {s t r : Text} : beforeEnd? s t = some r ↔ t = r ++ s := by
  rw [beforeEnd?, Option.map_eq_some_iff]
  constructor
  · rintro ⟨a, ha, rfl⟩
    have ht := congrArg List.reverse (afterStart?_eq_some_iff.1 ha)
    simpa using ht
  · rintro rfl
    exact ⟨r.reverse, afterStart?_eq_some_iff.2 (by simp), by simp⟩

theorem beforeEnd?_eq_none_iff {s t : Text} : beforeEnd? s t = none ↔ ∀ r, t ≠ r ++ s := by
  simp only [Option.eq_none_iff_forall_ne_some, ne_eq, beforeEnd?_eq_some_iff]

/-- A text that ends in another character has no such end. -/
theorem beforeEnd?_eq_none {s t : Text} (hs : s ≠ []) (h : t.getLast? ≠ s.getLast?) :
    beforeEnd? s t = none := by
  refine beforeEnd?_eq_none_iff.2 fun r hr => h ?_
  rw [hr, List.getLast?_append, Option.or_of_isSome (List.getLast?_isSome.2 hs)]

end Text
end Doctest
