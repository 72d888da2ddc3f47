/-
# What is shown last

When all cases have been run, the failed ones are listed with their reasons, and the result follows:

    <empty>
    failures:
    <empty>
      --- <title> ---
      <line of the reason>
    <empty>
    test result: FAILED. 1 passed, 1 failed (of 2)

Empty lines stand before a title or before `failures:` or the result, and nowhere else, because the
lines of a reason are indented.  So the titles can be read back from the text, each once and in
order (`Tally.listedTitles_closingText`), whatever the reasons say.
-/

import Doctest.CommandLine.Tally
import Doctest.Proofs.Text.Split

namespace Doctest
namespace Tally

open Text (unlines rawLines)

/-- The title that a line shows between dashes, if it is such a line. -/
def titleOf? (l : Text) : Option Text :=
  (Text.afterStart? "  --- ".toList l).bind (Text.beforeEnd? " ---\n".toList)

/-- The titles on those of the lines that come after an empty one. -/
def titlesIn : List Text → List Text
  | l :: l' :: ls =>
    if l = ['\n'] then (titleOf? l').toList ++ titlesIn (l' :: ls) else titlesIn (l' :: ls)
  | _ => []

/-- The titles that a text lists. -/
def listedTitles (t : Text) : List Text := titlesIn (rawLines t)

/-! ## Reading -/

/-- A line that is not empty comes before no title. -/
theorem titlesIn_cons {l : Text} (h : l ≠ ['\n']) (ls : List Text) :
    titlesIn (l :: ls) = titlesIn ls := by
  cases ls with
  | nil => rfl
  | cons l' ls => rw [titlesIn, if_neg h]

theorem titlesIn_append {ls : List Text} (h : ∀ l ∈ ls, l ≠ ['\n']) (ms : List Text) :
    titlesIn (ls ++ ms) = titlesIn ms := by
  induction ls with
  | nil => rfl
  | cons l ls ih =>
    obtain ⟨hl, hls⟩ := List.forall_mem_cons.1 h
    rw [List.cons_append, titlesIn_cons hl, ih hls]

/-- After an empty line comes a title, or what is none. -/
theorem titlesIn_blank {l : Text} (h : l ≠ ['\n']) (ls : List Text) :
    titlesIn (['\n'] :: l :: ls) = (titleOf? l).toList ++ titlesIn ls := by
  rw [titlesIn, if_pos rfl, titlesIn_cons h]

theorem titleOf?_heading (title : Text) :
    titleOf? ("  --- ".toList ++ title ++ " ---\n".toList) = some title := by
  rw [titleOf?, List.append_assoc, Text.afterStart?_eq_some_iff.2 rfl]
  exact Text.beforeEnd?_eq_some_iff.2 rfl

/-! ## The lines -/

/-- The line that shows the title of a failed case. -/
def headingLine (f : FailedCase) : Text := "  --- ".toList ++ f.title ++ " ---".toList

/-- The lines of the reason of a failed case. -/
def reasonLines (f : FailedCase) : List Text := (Text.lines f.reason).map ("  ".toList ++ ·)

variable {f : FailedCase}

theorem unlines_reasonLines (f : FailedCase) :
    unlines (reasonLines f) =
      (Text.lines f.reason).flatMap fun l => "  ".toList ++ l ++ ['\n'] := by
  rw [unlines, reasonLines, List.flatMap_map]

theorem failureText_eq (f : FailedCase) :
    failureText f = unlines ([] :: headingLine f :: reasonLines f) := by
  have hstop : " ---\n".toList = " ---".toList ++ ['\n'] := rfl
  unfold failureText headingLine
  rw [← unlines_reasonLines, hstop, Text.unlines_cons, Text.unlines_cons]
  simp only [List.append_assoc, List.nil_append]
  rfl

theorem newline_not_mem_headingLine (h : '\n' ∉ f.title) : '\n' ∉ headingLine f := by
  unfold headingLine
  simp [h]

theorem newline_not_mem_of_mem_reasonLines {l : Text} (hl : l ∈ reasonLines f) : '\n' ∉ l := by
  obtain ⟨m, hm, rfl⟩ := List.mem_map.1 hl
  simpa using Text.newline_not_mem_lines hm

/-- **A failed case is listed under its title**, and its reason lists nothing. -/
theorem listedTitles_failureText (h : '\n' ∉ f.title) (rest : Text) :
    listedTitles (failureText f ++ rest) = f.title :: listedTitles rest := by
  have hlines : ∀ l ∈ [] :: headingLine f :: reasonLines f, '\n' ∉ l :=
    List.forall_mem_cons.2 ⟨List.not_mem_nil, List.forall_mem_cons.2
      ⟨newline_not_mem_headingLine h, fun _ => newline_not_mem_of_mem_reasonLines⟩⟩
  have hsolid : ∀ l ∈ (reasonLines f).map (· ++ ['\n']), l ≠ ['\n'] := by
    refine List.forall_mem_map.2 fun l hl => ?_
    obtain ⟨m, -, rfl⟩ := List.mem_map.1 hl
    exact List.cons_ne_nil _ _ ∘ (List.append_left_eq_self.1)
  have hheading : headingLine f ++ ['\n'] = "  --- ".toList ++ f.title ++ " ---\n".toList :=
    List.append_assoc ("  --- ".toList ++ f.title) " ---".toList ['\n']
  have hsolid' : headingLine f ++ ['\n'] ≠ ['\n'] :=
    List.cons_ne_nil _ _ ∘ (List.append_left_eq_self.1)
  rw [listedTitles, failureText_eq, Text.rawLines_unlines_append hlines, List.map_cons,
    List.map_cons, List.nil_append, List.cons_append, List.cons_append, titlesIn_blank hsolid',
    titlesIn_append hsolid, hheading, titleOf?_heading]
  rfl

theorem listedTitles_flatMap {fs : List FailedCase} (h : ∀ f ∈ fs, '\n' ∉ f.title) (rest : Text) :
    listedTitles (fs.flatMap failureText ++ rest) =
      fs.map FailedCase.title ++ listedTitles rest := by
  induction fs with
  | nil => rfl
  | cons f fs ih =>
    obtain ⟨hf, hfs⟩ := List.forall_mem_cons.1 h
    rw [List.flatMap_cons, List.append_assoc, listedTitles_failureText hf, ih hfs]
    rfl

/-- The heading of the list lists nothing itself. -/
theorem listedTitles_failures (rest : Text) :
    listedTitles ("\nfailures:\n".toList ++ rest) = listedTitles rest := by
  have hlines : ∀ l ∈ [[], "failures:".toList], '\n' ∉ l := by decide
  have hcut : rawLines ("\nfailures:\n".toList ++ rest) =
      ['\n'] :: "failures:\n".toList :: rawLines rest := Text.rawLines_unlines_append hlines rest
  rw [listedTitles, hcut, titlesIn_blank (by decide)]
  rfl

variable {s : Tally}

theorem newline_not_mem_apply (p : Paint) (colored : Bool) {t : Text} (h : '\n' ∉ t) :
    '\n' ∉ p.apply colored t := by
  unfold Paint.apply
  split
  · simp [h, Text.newline_not_mem_ofNat]
  · exact h

theorem newline_not_mem_examplesLabel (n : Nat) : '\n' ∉ examplesLabel n := by
  unfold examplesLabel
  split
  · decide
  · simp [Text.newline_not_mem_ofNat]

/-- The result stands on one line, after an empty one. -/
theorem exists_resultLine_eq (s : Tally) (colored : Bool) : ∃ rest,
    s.resultLine colored = unlines [[], "test result: ".toList ++ rest] ∧ '\n' ∉ rest := by
  have hstart : "\ntest result: ".toList = '\n' :: "test result: ".toList := rfl
  have hok := newline_not_mem_apply .green colored (t := "ok".toList) (by decide)
  have hfailed := newline_not_mem_apply .red colored (t := "FAILED".toList) (by decide)
  unfold resultLine
  split
  · have hstop : " run)\n".toList = " run)".toList ++ ['\n'] := rfl
    refine ⟨Paint.green.apply colored "ok".toList ++ ". ".toList ++ Text.ofNat s.passed ++
      " passed, 0 failed (".toList ++ examplesLabel s.examples ++ " run)".toList, ?_, ?_⟩
    · rw [hstart, hstop, Text.unlines_cons, Text.unlines_cons]
      simp only [Text.unlines_nil, List.append_assoc, List.nil_append, List.cons_append]
    · simpa [Text.newline_not_mem_ofNat, newline_not_mem_examplesLabel] using hok
  · have hstop : ")\n".toList = ")".toList ++ ['\n'] := rfl
    refine ⟨Paint.red.apply colored "FAILED".toList ++ ". ".toList ++ Text.ofNat s.passed ++
      " passed, ".toList ++ Text.ofNat s.failed ++ " failed (of ".toList ++
        Text.ofNat (s.passed + s.failed) ++ ")".toList, ?_, ?_⟩
    · rw [hstart, hstop, Text.unlines_cons, Text.unlines_cons]
      simp only [Text.unlines_nil, List.append_assoc, List.nil_append, List.cons_append]
    · simpa [Text.newline_not_mem_ofNat] using hfailed

/-- The result lists nothing. -/
theorem listedTitles_resultLine (s : Tally) (colored : Bool) :
    listedTitles (s.resultLine colored) = [] := by
  obtain ⟨rest, hline, hrest⟩ := exists_resultLine_eq s colored
  have hlines : ∀ l ∈ [[], "test result: ".toList ++ rest], '\n' ∉ l :=
    List.forall_mem_cons.2 ⟨List.not_mem_nil, List.forall_mem_singleton.2 (by simpa using hrest)⟩
  have hcut := Text.rawLines_unlines hlines
  rw [← hline] at hcut
  rw [listedTitles, hcut]
  rfl

/-- **The titles of the failed cases are listed**, in order, if each is on one line. -/
theorem listedTitles_closingText (h : ∀ f ∈ s.failures, '\n' ∉ f.title) (colored : Bool) :
    listedTitles (s.closingText colored) = s.failures.map FailedCase.title := by
  rw [closingText, failuresText]
  split
  · rename_i hnone
    rw [List.nil_append, listedTitles_resultLine, hnone]
    rfl
  · rw [List.append_assoc, listedTitles_failures, listedTitles_flatMap h, listedTitles_resultLine,
      List.append_nil]

end Tally
end Doctest
