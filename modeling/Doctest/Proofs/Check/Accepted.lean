/-
# Outputs that pass

A claimed output is put together from texts of lines, with line feeds between them.  No text of a
line ends in a carriage return, so neither does the claim, and none of its line feeds follows one
(`Document.expected_isBare`).  An output has one terminator taken off (`Script.chomp_eq_iff`).
Hence the claim and one terminator always pass, the claim itself passes if it does not end in a line
feed, and nothing else does (`Document.output_passes_iff`).
-/

import Doctest.Check.Comparison
import Doctest.Proofs.Example.Outcomes
import Doctest.Proofs.Example.Spans
import Doctest.Proofs.Script.Terminator

namespace Doctest

/-! ## What an example can claim -/

namespace Text

/-- The text of a line: no line feed is in it and no carriage return ends it. -/
def IsBare (t : Text) : Prop := '\n' ∉ t ∧ t.getLast? ≠ some '\r'

/-- What the text of a line ends in is such a text again. -/
theorem IsBare.of_suffix {s t : Text} (h : t.IsBare) (hs : s <:+ t) : s.IsBare := by
  obtain ⟨a, rfl⟩ := hs
  refine ⟨fun hmem => h.1 (List.mem_append_right _ hmem), fun hlast => h.2 ?_⟩
  rw [List.getLast?_append, hlast]
  rfl

/-- A carriage return stands right before a line feed in one of two texts, or where they meet. -/
theorem crlf_infix_append {s t : Text} :
    ['\r', '\n'] <:+: s ++ t ↔ ['\r', '\n'] <:+: s ∨ ['\r', '\n'] <:+: t ∨
      s.getLast? = some '\r' ∧ t.head? = some '\n' := by
  induction s with
  | nil => simp
  | cons c s ih =>
    rw [List.cons_append, List.infix_cons_iff, List.infix_cons_iff, ih]
    cases s with
    | nil =>
      simp only [List.nil_append, List.cons_prefix_cons, List.singleton_prefix_iff_head?_eq_some,
        List.getLast?_nil, List.getLast?_singleton, List.infix_nil, List.prefix_nil]
      grind
    | cons d s =>
      simp only [List.cons_append, List.cons_prefix_cons, List.nil_prefix, and_true,
        List.getLast?_cons_cons, or_assoc]

/-- A line feed before a text makes no carriage return its end. -/
theorem getLast?_newline_cons {t : Text} (h : t.getLast? ≠ some '\r') :
    ('\n' :: t).getLast? ≠ some '\r' := by
  cases t with
  | nil => simp
  | cons c t => rwa [List.getLast?_cons_cons]

/-- A line feed before a text comes after no carriage return. -/
theorem not_crlf_infix_newline_cons {t : Text} (h : ¬ ['\r', '\n'] <:+: t) :
    ¬ ['\r', '\n'] <:+: '\n' :: t := by
  rw [List.infix_cons_iff, List.cons_prefix_cons]
  rintro (⟨hreturn, -⟩ | hin)
  · cases hreturn
  · exact h hin

/-- **Texts of lines with line feeds between them** do not end in a carriage return, and no line
feed among them comes after one. -/
theorem join_isBare {ts : List Text} (h : ∀ t ∈ ts, t.IsBare) :
    (join ['\n'] ts).getLast? ≠ some '\r' ∧ ¬ ['\r', '\n'] <:+: join ['\n'] ts := by
  have hone : ∀ t : Text, t.IsBare → ¬ ['\r', '\n'] <:+: t := fun t ht hcrlf =>
    ht.1 (hcrlf.subset (by simp))
  induction ts with
  | nil => simp [join]
  | cons t ts ih =>
    rw [List.forall_mem_cons] at h
    cases ts with
    | nil => simpa [join] using And.intro h.1.2 (hone t h.1)
    | cons u ts =>
      obtain ⟨hlast, hcrlf⟩ := ih h.2
      have hjoin : join ['\n'] (t :: u :: ts) = t ++ ('\n' :: join ['\n'] (u :: ts)) := by
        simp [join, List.intercalate]
      rw [hjoin]
      constructor
      · rw [List.getLast?_append, Option.or_of_isSome (List.getLast?_isSome.2 (by simp))]
        exact getLast?_newline_cons hlast
      · rw [crlf_infix_append]
        rintro (hin | hin | ⟨hend, -⟩)
        · exact hone t h.1 hin
        · exact not_crlf_infix_newline_cons hcrlf hin
        · exact h.1.2 hend

end Text

/-- The text of a line of a document is bare. -/
theorem Document.isBare_text {d : Document} {l : Line} (hl : l ∈ d.lines) : l.text.IsBare := by
  have hcut : Text.IsCut [l.raw] :=
    (Line.cutAt_iff.1 d.cutAt_lines).2.of_mem (List.mem_map_of_mem hl)
  refine ⟨hcut.newline_not_mem_stripTerminators, fun hlast => ?_⟩
  have hreturn := Text.isTerminator_getLast?_stripTerminators l.raw '\r' hlast
  cases hreturn

namespace Example

/-- What is left of a text without its indentation is an end of it. -/
theorem unindent_suffix (t : Text) : unindent t <:+ t := by
  cases h : Text.afterStart? indent t with
  | none => simp [unindent, h]
  | some r =>
    rw [unindent, h]
    exact ⟨indent, (Text.afterStart?_eq_some_iff.1 h).symm⟩

/-- **What an example claims is put together from texts of lines.** -/
theorem exists_expected_eq {b : Block} {e : Example} (h : ofBlock b = .ok e)
    (hb : ∀ l ∈ b.lines, l.text.IsBare) :
    ∃ ts : List Text, e.expected = Text.join ['\n'] ts ∧ ∀ t ∈ ts, t.IsBare := by
  have hof : Line.ofText b.span.start b.text = b.lines := rfl
  simp only [ofBlock, hof] at h
  split at h
  · obtain ⟨-, rfl⟩ := ofParts_eq_ok_iff.1 h
    refine ⟨_, rfl, fun t ht => ?_⟩
    obtain ⟨l, hl, hafter⟩ := List.mem_filterMap.1 ht
    obtain ⟨a, ha, -⟩ := Text.afterFirst?_eq_some_iff.1 hafter
    exact (hb l hl).of_suffix ⟨_, ha.symm⟩
  · obtain ⟨-, rfl⟩ := ofParts_eq_ok_iff.1 h
    refine ⟨_, rfl, fun t ht => ?_⟩
    obtain ⟨l, hl, rfl⟩ := List.mem_map.1 ht
    exact (hb l (List.mem_of_mem_drop hl)).of_suffix (unindent_suffix l.text)
  · cases h

end Example

/-! ## Accepted outputs -/

/-- Two texts are accepted as equal exactly if they are. -/
theorem Comparison.equality_eq_ok_iff {expected actual : Text} {index : Nat} :
    equality expected actual index = .ok () ↔ actual = expected := by
  rw [equality]
  split
  · exact iff_of_true rfl (Eq.symm ‹_›)
  · exact iff_of_false nofun (Ne.symm ‹_›)

namespace Document

variable {d : Document} {name : Text} {es : List Example} {e : Example}

/-- What an example of a document claims does not end in a carriage return, and no line feed in it
comes after one. -/
theorem expected_isBare (hes : d.examples name = .ok es) (he : e ∈ es) :
    e.expected.getLast? ≠ some '\r' ∧ ¬ ['\r', '\n'] <:+: e.expected := by
  obtain ⟨s, hs, b, hb, hof⟩ := exists_block_of_mem hes he
  obtain ⟨before, after, hlines, -⟩ := exists_lines_block hs hb
  have hbare : ∀ l ∈ b.lines, l.text.IsBare := fun l hl =>
    isBare_text (d := d) (by simp [hlines, hl])
  obtain ⟨ts, hexpected, hts⟩ := Example.exists_expected_eq hof hbare
  rw [hexpected]
  exact Text.join_isBare hts

/-- **The outputs that pass as what an example claims** are the claim with one terminator after it
and, unless it ends in a line feed, the claim itself.  So the claim and a line feed always pass, and
an output with one more or one fewer empty line at its end never does. -/
theorem output_passes_iff (hes : d.examples name = .ok es) (he : e ∈ es) :
    e.expected.getLast? ≠ some '\r' ∧ ¬ ['\r', '\n'] <:+: e.expected ∧
      ∀ output index,
        (Comparison.equality e.expected (Script.chomp output) index = .ok () ↔
          output = e.expected ++ ['\n'] ∨ output = e.expected ++ ['\r', '\n'] ∨
          output = e.expected ++ ['\r'] ∨
          output = e.expected ∧ e.expected.getLast? ≠ some '\n') := by
  obtain ⟨hreturn, hcrlf⟩ := expected_isBare hes he
  refine ⟨hreturn, hcrlf, fun output index => ?_⟩
  rw [Comparison.equality_eq_ok_iff, Script.chomp_eq_iff]
  constructor
  · rintro (h | ⟨h, -⟩ | h | ⟨h, hfeed, -⟩)
    · exact .inr (.inl h)
    · exact .inl h
    · exact .inr (.inr (.inl h))
    · exact .inr (.inr (.inr ⟨h, hfeed⟩))
  · rintro (h | h | h | ⟨h, hfeed⟩)
    · exact .inr (.inl ⟨h, hreturn⟩)
    · exact .inl h
    · exact .inr (.inr (.inl h))
    · exact .inr (.inr (.inr ⟨h, hfeed, hreturn⟩))

/-- An example whose last marker has nothing after it claims an empty line at the end: its claim
alone does not pass, a second line feed is needed. -/
theorem output_passes_empty_line :
    let d := ofText (.ofText "notes".toList) "= A\n  p 1 # => 2\n  puts # => \n".toList
    ∃ e, d.examples "A".toList = .ok [e] ∧ e.expected = "2\n".toList ∧
      ∀ output index,
        (Comparison.equality "2\n".toList (Script.chomp output) index = .ok () ↔
          output = "2\n\n".toList ∨ output = "2\n\r\n".toList ∨ output = "2\n\r".toList) := by
  intro d
  let e : Example := ⟨0, "  p 1 # => 2\n  puts # => \n".toList, "2\n".toList, .inline, ⟨4, 30⟩⟩
  have hes : d.examples "A".toList = .ok [e] := by decide +kernel
  refine ⟨e, hes, rfl, fun output index => ?_⟩
  simpa [e] using (output_passes_iff hes (List.mem_singleton_self e)).2.2 output index

end Document

end Doctest
