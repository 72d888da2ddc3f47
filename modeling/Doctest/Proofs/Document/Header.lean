/-
# Reading headers

A header is known by its first character, stands where its line stands, and is read back when it is
written as its marks, one space and its name (`ofText?_written`).
-/

import Doctest.Document.Header
import Doctest.Proofs.Text.Lines

namespace Doctest
namespace Header

/-- A text that does not start with a mark is no header. -/
theorem ofText?_eq_none {t : Text} (h : t.head? ≠ some '=') (offset : Nat) :
    ofText? t offset = none := by
  have hmarks : t.takeWhile (· = '=') = [] := by
    cases t with
    | nil => rfl
    | cons c t =>
      have hc : ¬ c = '=' := fun e => h (by rw [e]; rfl)
      simp [hc]
  simp only [ofText?, hmarks, if_pos]

/-- A header stands where its line starts. -/
theorem start_of_ofLine? {l : Line} {h : Header} (hh : ofLine? l = some h) :
    h.span.start = l.start := by
  unfold ofLine? ofText? at hh
  simp only at hh
  split at hh
  · simp at hh
  · obtain ⟨name, -, rfl⟩ := Option.map_eq_some_iff.1 hh
    rfl

/-- A header stops where the text of its line stops. -/
theorem stop_of_ofLine? {l : Line} {h : Header} (hh : ofLine? l = some h) :
    h.span.stop = l.start + Text.bytes l.text := by
  unfold ofLine? ofText? at hh
  simp only at hh
  split at hh
  · simp at hh
  · obtain ⟨name, -, rfl⟩ := Option.map_eq_some_iff.1 hh
    rfl

/-- The line of a header starts with a mark. -/
theorem head?_of_ofLine? {l : Line} {h : Header} (hh : ofLine? l = some h) :
    l.text.head? = some '=' := by
  refine Decidable.byContradiction fun hne => ?_
  rw [ofLine?, ofText?_eq_none hne] at hh
  simp at hh

/-- **The name of a header is a part of its line** and does not end in white space. -/
theorem name_of_ofText? {t : Text} {offset : Nat} {h : Header} (hh : ofText? t offset = some h) :
    (∀ c ∈ h.name, c ∈ t) ∧ ∀ c ∈ h.name.getLast?, Text.isBlankChar c = false := by
  unfold ofText? at hh
  simp only at hh
  split at hh
  · simp at hh
  · obtain ⟨name, hname, rfl⟩ := Option.map_eq_some_iff.1 hh
    have hsub : t.dropWhile (· = '=') ⊆ t := (List.dropWhile_suffix _).subset
    generalize t.dropWhile (· = '=') = after at hname hsub
    cases after with
    | nil =>
      obtain rfl := Option.some.inj hname
      simp
    | cons c rest =>
      rw [nameAfter?] at hname
      split at hname
      · obtain rfl := Option.some.inj hname
        have htrim := (Text.trimEndWhile_isPrefix Text.isBlankChar rest).subset
        exact ⟨fun d hd => hsub (List.mem_cons_of_mem c (htrim hd)),
          Text.getLast?_trimEndWhile Text.isBlankChar rest⟩
      · simp at hname

/-- The text of a header: its marks, a space and its name. -/
def writtenText (depth : Nat) (name : Text) : Text := List.replicate depth '=' ++ ' ' :: name

/-- **A written header is read back**, if its name does not end in white space. -/
theorem ofText?_written {depth : Nat} (hdepth : 0 < depth) {name : Text}
    (hname : ∀ c ∈ name.getLast?, Text.isBlankChar c = false) (offset : Nat) :
    ofText? (writtenText depth name) offset =
      some ⟨depth, name, ⟨offset, offset + Text.bytes (writtenText depth name)⟩⟩ := by
  have hall : ∀ c ∈ List.replicate depth '=', decide (c = '=') = true := fun c hc =>
    decide_eq_true (List.eq_of_mem_replicate hc)
  have htake : (writtenText depth name).takeWhile (· = '=') = List.replicate depth '=' := by
    rw [writtenText, List.takeWhile_append_of_pos hall, List.takeWhile_cons_of_neg (by decide),
      List.append_nil]
  have hdrop : (writtenText depth name).dropWhile (· = '=') = ' ' :: name := by
    rw [writtenText, List.dropWhile_append_of_pos hall, List.dropWhile_cons_of_neg (by decide)]
  have hne : List.replicate depth '=' ≠ [] := by
    rw [ne_eq, List.replicate_eq_nil_iff]
    omega
  have hafter : nameAfter? (' ' :: name) = some name := by
    rw [nameAfter?, if_pos (by decide), Text.trimEnd, Text.trimEndWhile_eq_self hname]
  simp only [ofText?, htake, hdrop, if_neg hne, hafter, Option.map_some, List.length_replicate]

end Header
end Doctest
