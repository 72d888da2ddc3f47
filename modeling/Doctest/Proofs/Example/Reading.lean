/-
# Reading a block

How the separators among the lines of a block decide what it is read as: without one the block is in
the inline form (`ofBlock_of_no_separator`), with one in the split form (`ofBlock_of_separator`).
-/

import Doctest.Example.Basic
import Doctest.Proofs.Text.Lines
import Mathlib.Data.List.TakeWhile

namespace Doctest
namespace Example

/-- The code of a block is read only if a character of it is not white space, and an example keeps
the index and the span of its block. -/
theorem ofParts_eq_ok_iff {b : Block} {code : List Line} {expected : Text} {form : ExampleForm}
    {e : Example} :
    ofParts b code expected form = .ok e ↔
      Text.isBlank (Line.join code) = false ∧
        e = ⟨b.index, runnable code, expected, form, b.span⟩ := by
  unfold ofParts
  cases Text.isBlank (Line.join code) <;> simp [eq_comm]

/-- **An example keeps the index and the span of its block.** -/
theorem index_span_of_ofBlock {b : Block} {e : Example} (h : ofBlock b = .ok e) :
    e.index = b.index ∧ e.span = b.span := by
  unfold ofBlock at h
  simp only at h
  split at h
  · obtain ⟨-, rfl⟩ := ofParts_eq_ok_iff.1 h
    exact ⟨rfl, rfl⟩
  · obtain ⟨-, rfl⟩ := ofParts_eq_ok_iff.1 h
    exact ⟨rfl, rfl⟩
  · simp at h

/-! ## Separators and shell commands -/

theorem isSeparator_iff {l : Line} :
    isSeparator l = true ↔ ∃ t, l.text = outputMarker ++ t ∧ Text.isBlank t = true := by
  unfold isSeparator
  constructor
  · intro h
    split at h
    · rename_i rest hrest
      exact ⟨rest, Text.afterStart?_eq_some_iff.1 hrest, h⟩
    · simp at h
  · rintro ⟨t, ht, hblank⟩
    rw [Text.afterStart?_eq_some_iff.2 ht]
    exact hblank

/-- A line shows a shell command if its first character other than white space says so. -/
theorem isShellLine_iff {l : Line} :
    isShellLine l = true ↔ l.raw.find? (!Text.isBlankChar ·) = some shellMarker := by
  rw [isShellLine, decide_eq_true_iff, Text.trimStart, ← List.find?_not_eq_head?_dropWhile]

/-- Code without shell commands is run as it stands. -/
theorem runnable_eq_join {ls : List Line} (h : ∀ l ∈ ls, isShellLine l = false) :
    runnable ls = Line.join ls := by
  have hkeep : ∀ l ∈ ls, (!isShellLine l) = true := fun l hl => by rw [h l hl]; rfl
  rw [runnable, List.filter_eq_self.2 hkeep]

/-! ## The two forms -/

section Forms

variable {b : Block}

/-- **A block without a separator is in the inline form.** -/
theorem ofBlock_of_no_separator (h : ∀ l ∈ Line.ofText b.span.start b.text, isSeparator l = false) :
    ofBlock b = ofParts b (Line.ofText b.span.start b.text)
      (inlineExpected (Line.ofText b.span.start b.text)) .inline := by
  have hfilter : (Line.ofText b.span.start b.text).filter isSeparator = [] :=
    List.filter_eq_nil_iff.2 fun l hl => by simp [h l hl]
  simp only [ofBlock, hfilter]

/-- **A block with one separator is in the split form**: the code stands before it, the output after
it. -/
theorem ofBlock_of_separator {code output : List Line} {separator : Line}
    (hlines : Line.ofText b.span.start b.text = code ++ separator :: output)
    (hcode : ∀ l ∈ code, isSeparator l = false) (hseparator : isSeparator separator = true)
    (houtput : ∀ l ∈ output, isSeparator l = false) :
    ofBlock b = ofParts b code (splitExpected output) .split := by
  have hfilter : (code ++ separator :: output).filter isSeparator = [separator] := by
    rw [List.filter_append, List.filter_eq_nil_iff.2 fun l hl => by simp [hcode l hl],
      List.filter_cons_of_pos hseparator,
      List.filter_eq_nil_iff.2 fun l hl => by simp [houtput l hl], List.nil_append]
  have htake : (code ++ separator :: output).takeWhile (!isSeparator ·) = code := by
    rw [List.takeWhile_append_of_pos fun l hl => by simp [hcode l hl],
      List.takeWhile_cons_of_neg (by simp [hseparator]), List.append_nil]
  have hdrop : (code ++ separator :: output).drop (code.length + 1) = output := by
    rw [← List.drop_drop, List.drop_left' rfl]
    rfl
  simp only [ofBlock, hlines, hfilter, htake, hdrop]

end Forms

end Example
end Doctest
