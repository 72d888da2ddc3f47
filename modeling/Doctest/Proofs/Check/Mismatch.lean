/-
# The text that reports different outputs

    output mismatch
      expected: "…"
      actual:   "…"

Both outputs come quoted, so the text has these three lines and no others, and what stands between
the outer quotation marks of the last two is read back as the outputs (`Comparison.equality_told`).
An output that holds quotation marks, line feeds or a copy of such a text cannot be taken for
another one.
-/

import Doctest.Check.Comparison
import Doctest.Proofs.Check.Accepted
import Doctest.Proofs.Text.Quoted
import Doctest.Proofs.Text.Split

namespace Doctest
namespace Comparison

/-- A text between quotation marks under a label. -/
def outputLine (label inner : Text) : Text := label ++ ['"'] ++ inner ++ ['"']

theorem outputLine_flatMap (label t : Text) :
    outputLine label (t.flatMap Text.escapeChar) = label ++ Text.quoted t := by
  rw [outputLine, Text.quoted, List.append_assoc, List.append_assoc, List.append_assoc]

/-- The label and the marks are around what stands between them. -/
theorem outputLine_inj {label s t : Text} : outputLine label s = outputLine label t ↔ s = t := by
  rw [outputLine, outputLine, List.append_left_inj, List.append_right_inj]

/-- The lines of the text that reports two outputs. -/
def mismatchLines (expected actual : Text) : List Text :=
  ["output mismatch".toList, outputLine "  expected: ".toList (expected.flatMap Text.escapeChar),
    outputLine "  actual:   ".toList (actual.flatMap Text.escapeChar)]

theorem mismatch_eq_join (expected actual : Text) :
    mismatch expected actual = Text.join ['\n'] (mismatchLines expected actual) := by
  have hfirst : "output mismatch\n  expected: ".toList =
      "output mismatch".toList ++ (['\n'] ++ "  expected: ".toList) := by decide
  have hsecond : "\n  actual:   ".toList = ['\n'] ++ "  actual:   ".toList := by decide
  unfold mismatch mismatchLines
  rw [hfirst, hsecond]
  generalize "output mismatch".toList = title
  generalize "  expected: ".toList = first
  generalize "  actual:   ".toList = second
  rw [outputLine_flatMap, outputLine_flatMap, Text.join_cons]
  simp

/-- **The text has three lines**, whatever the outputs hold. -/
theorem splitOn_mismatch (expected actual : Text) :
    Text.splitOn '\n' (mismatch expected actual) = mismatchLines expected actual := by
  have hlabels : '\n' ∉ "output mismatch".toList ∧ '\n' ∉ "  expected: ".toList ∧
      '\n' ∉ "  actual:   ".toList := by decide
  obtain ⟨htitle, hexpected, hactual⟩ := hlabels
  have hlines : ∀ l ∈ mismatchLines expected actual, '\n' ∉ l := by
    simp only [mismatchLines, outputLine_flatMap, List.forall_mem_cons]
    exact ⟨htitle, List.not_mem_append hexpected (Text.newline_not_mem_quoted _),
      List.not_mem_append hactual (Text.newline_not_mem_quoted _), List.forall_mem_nil _⟩
  rw [mismatch_eq_join]
  exact Text.splitOn_join hlines (List.cons_ne_nil _ _)

/-- **Different outputs are reported by different texts.** -/
theorem mismatch_inj {expected actual expected' actual' : Text} :
    mismatch expected actual = mismatch expected' actual' ↔
      expected = expected' ∧ actual = actual' := by
  constructor
  · intro h
    have hlines := congrArg (Text.splitOn '\n') h
    rw [splitOn_mismatch, splitOn_mismatch] at hlines
    simp only [mismatchLines, List.cons.injEq, outputLine_inj, and_true, true_and] at hlines
    obtain ⟨hexpected, hactual⟩ := hlines
    have hread := congrArg Text.unescape hexpected
    have hread' := congrArg Text.unescape hactual
    rw [Text.unescape_flatMap, Text.unescape_flatMap] at hread hread'
    exact ⟨Option.some.inj hread, Option.some.inj hread'⟩
  · rintro ⟨rfl, rfl⟩
    rfl

theorem equality_eq_error_iff {expected actual text : Text} {index : Nat} :
    equality expected actual index = .error text ↔
      expected ≠ actual ∧ text = mismatch expected actual := by
  rw [equality]
  split
  · rename_i heq
    have hok : (Except.ok () : Verdict) ≠ .error text := by
      intro h
      cases h
    exact iff_of_false hok fun h => h.1 heq
  · rename_i hne
    rw [Except.error.injEq, eq_comm]
    exact (and_iff_right hne).symm

/-- **Equal outputs are accepted, and others are reported without ambiguity.**  The text has three
lines, what stands between the outer quotation marks of the last two is read back as the outputs,
and no two other outputs are reported by the same text. -/
theorem equality_told (expected actual : Text) (index : Nat) :
    (equality expected actual index = .ok () ↔ actual = expected) ∧
      (actual ≠ expected → ∃ text first second,
        equality expected actual index = .error text ∧
        Text.splitOn '\n' text = ["output mismatch".toList, outputLine "  expected: ".toList first,
          outputLine "  actual:   ".toList second] ∧
        Text.unescape first = some expected ∧ Text.unescape second = some actual ∧
        ∀ expected' actual' index', equality expected' actual' index' = .error text ↔
          expected' = expected ∧ actual' = actual) := by
  refine ⟨equality_eq_ok_iff, fun hne => ⟨mismatch expected actual, _, _,
    equality_eq_error_iff.2 ⟨hne.symm, rfl⟩, splitOn_mismatch expected actual,
    Text.unescape_flatMap expected, Text.unescape_flatMap actual, ?_⟩⟩
  intro expected' actual' index'
  rw [equality_eq_error_iff, mismatch_inj]
  constructor
  · rintro ⟨-, rfl, rfl⟩
    exact ⟨rfl, rfl⟩
  · rintro ⟨rfl, rfl⟩
    exact ⟨hne.symm, rfl, rfl⟩

/-- An output that imitates the end of the first quoted text and the line after it. -/
theorem equality_told_imitated :
    let expected : Text := "1\"\n  actual:   \"2".toList
    let actual : Text := ['\x00', '\\', '\x1b', '\u0301']
    actual ≠ expected ∧ ∃ text, equality expected actual 0 = .error text ∧
      (Text.splitOn '\n' text).length = 3 ∧
      ∀ expected' actual' index', equality expected' actual' index' = .error text ↔
        expected' = expected ∧ actual' = actual := by
  intro expected actual
  have hne : actual ≠ expected := by decide
  obtain ⟨text, first, second, htext, hlines, -, -, honly⟩ :=
    (equality_told expected actual 0).2 hne
  refine ⟨hne, text, htext, ?_, honly⟩
  rw [hlines]
  rfl

end Comparison
end Doctest
