/-
# The lines of a script

The code of an example becomes lines of the script between lines of its own:

| lines | first character |
| --- | --- |
| the load path, which is one line unless the library's path has a line feed | `$` |
| `begin` | `b` |
| those of the code, the last one ended if need be | white space |
| `rescue …`, `puts …`, `end` | `r`, a space, `e` |

No line of a block starts in the first column but with white space, and leaving out some of them
neither joins nor cuts the others (`Example.exists_raw_of_mem_codeOf`).  So no line of the code can
end the script, start a comment that runs on or be taken for `rescue` or `end`, whatever a document
contains (`Script.lines_wrap`).
-/

import Doctest.Proofs.Example.Decision
import Doctest.Script

namespace Doctest

/-! ## The first column of a block -/

/-- The terminators at the end of a line are white space. -/
theorem Text.isBlankChar_of_isTerminator {c : Char} (h : isTerminator c = true) :
    isBlankChar c = true := by
  cases hc : isBlankChar c with
  | true => rfl
  | false => cases h.symm.trans (isTerminator_of_not_blank hc)

/-- A line that does not close a block has no other than white space in the first column, its
terminator included. -/
theorem Line.startsSolid_raw {l : Line} (h : ¬ l.Closes) : Text.startsSolid l.raw = false := by
  obtain ⟨terminators, hraw, hterminators⟩ :=
    Text.exists_trimEndWhile_append Text.isTerminator l.raw
  have hraw : l.raw = l.text ++ terminators := hraw
  rw [← Bool.not_eq_true, Text.startsSolid_iff]
  rintro ⟨c, t, hc, hsolid⟩
  rw [hraw] at hc
  cases htext : l.text with
  | nil =>
    rw [htext] at hc
    rw [List.nil_append] at hc
    have hblank := Text.isBlankChar_of_isTerminator (hterminators c (hc ▸ List.mem_cons_self))
    cases hsolid.symm.trans hblank
  | cons d u =>
    rw [htext] at hc
    obtain ⟨rfl, -⟩ := List.cons.inj hc
    exact h ⟨d, u, htext, hsolid⟩

namespace Script

/-! ## Lines of code in a script -/

/-- The line is blank, or there is white space and then a character that is not a percent sign. -/
def Indented (l : Text) : Prop :=
  Text.isBlank l = true ∨ ∃ w c t, l = w ++ c :: t ∧ w ≠ [] ∧ (∀ d ∈ w, Text.isBlankChar d = true) ∧
    Text.isBlankChar c = false ∧ c ≠ '%'

/-- What neither starts with another character than white space nor shows a command is indented. -/
theorem indented_of_not_startsSolid {l : Text} (h : Text.startsSolid l = false)
    (hcommand : ∀ w t, l = w ++ '%' :: t → ¬ ∀ c ∈ w, Text.isBlankChar c = true) : Indented l := by
  have hw : ∀ c ∈ l.takeWhile Text.isBlankChar, Text.isBlankChar c = true := fun c hc =>
    List.mem_takeWhile_imp hc
  have hl := List.takeWhile_append_dropWhile (p := Text.isBlankChar) (l := l)
  cases hrest : l.dropWhile Text.isBlankChar with
  | nil =>
    rw [hrest, List.append_nil] at hl
    exact .inl (Text.isBlank_iff.2 (hl ▸ hw))
  | cons c t =>
    rw [hrest] at hl
    have hc : Text.isBlankChar c = false := by
      have hstop := List.head?_dropWhile_not Text.isBlankChar l
      rw [hrest] at hstop
      exact hstop
    refine .inr ⟨_, c, t, hl.symm, fun hnil => ?_, hw, hc, ?_⟩
    · rw [hnil, List.nil_append] at hl
      rw [← hl, Text.startsSolid_iff.2 ⟨c, t, rfl, hc⟩] at h
      cases h
    · rintro rfl
      exact hcommand _ t hl.symm hw

/-- **A line of the code that is run is indented**, also if it has to be ended. -/
theorem indented_of_line {m : Line} (hcloses : ¬ m.Closes) (hcommand : ¬ m.ShowsCommand) :
    Indented m.raw ∧ Indented (m.raw ++ ['\n']) := by
  have hsolid := Line.startsSolid_raw hcloses
  refine ⟨indented_of_not_startsSolid hsolid fun w t hraw hw => hcommand ⟨w, t, hraw, hw⟩,
    indented_of_not_startsSolid ?_ fun w t hraw hw => hcommand ?_⟩
  · cases hraw : m.raw with
    | nil => rfl
    | cons c t => rwa [hraw] at hsolid
  · -- The percent sign is not the line feed at the end.
    rcases List.eq_nil_or_concat t with rfl | ⟨t, d, rfl⟩
    · obtain ⟨-, hlast⟩ := List.append_inj' hraw rfl
      cases hlast
    · rw [List.concat_eq_append, ← List.cons_append, ← List.append_assoc] at hraw
      exact ⟨w, t, (List.append_inj' hraw rfl).1, hw⟩

/-- What is indented starts with no word. -/
theorem Indented.not_prefix {l w : Text} (h : Indented l) (hw : Text.startsSolid w = true) :
    ¬ w <+: l := by
  rintro ⟨rest, rfl⟩
  obtain ⟨c, t, rfl, hc⟩ := Text.startsSolid_iff.1 hw
  rcases h with hblank | ⟨w, d, u, hl, hne, hw, -⟩
  · rw [Text.isBlank_iff.1 hblank c List.mem_cons_self] at hc
    cases hc
  · obtain ⟨x, w, rfl⟩ := List.exists_cons_of_ne_nil hne
    obtain ⟨rfl, -⟩ := List.cons.inj hl
    rw [hw c List.mem_cons_self] at hc
    cases hc

/-! ## Lines of the body -/

theorem endsLine_body (code : Text) : (body code).EndsLine := by
  unfold body
  split
  · rename_i hlast
    intro c hc
    exact (Option.some.inj (hlast.symm.trans hc)).symm
  · exact Text.endsLine_newline code

/-- Only the end of the code matters. -/
theorem body_append (s : Text) {code : Text} (h : code ≠ []) :
    body (s ++ code) = s ++ body code := by
  unfold body
  rw [List.getLast?_append_of_ne_nil _ h]
  split
  · rfl
  · rw [List.append_assoc]

/-- **Every line of the body is ended**, and is a line of the code up to its end. -/
theorem exists_of_mem_rawLines_body {code l : Text} (hl : l ∈ Text.rawLines (body code)) :
    ∃ t, l = t ++ ['\n'] ∧ '\n' ∉ t ∧
      (t = [] ∨ t ∈ Text.rawLines code ∨ l ∈ Text.rawLines code) := by
  have hcut := Text.isCut_rawLines code
  have hcode := Text.flatten_rawLines code
  generalize Text.rawLines code = ls at hcut hcode ⊢
  subst hcode
  induction hcut with
  | nil => exact ⟨[], List.mem_singleton.1 hl, List.not_mem_nil, .inl rfl⟩
  | @last t hne ht =>
    have hlast : t.getLast? ≠ some '\n' := fun h => ht (List.mem_of_getLast? h)
    rw [List.flatten_singleton, body, if_neg hlast, Text.rawLines_append_newline ht] at hl
    obtain rfl := List.mem_singleton.1 hl
    exact ⟨t, rfl, ht, .inr (.inl List.mem_cons_self)⟩
  | @line t ls ht hls ih =>
    rw [List.flatten_cons] at hl
    by_cases hrest : ls.flatten = []
    · have hlast : (t ++ ['\n']).getLast? = some '\n' := by simp
      rw [hrest, List.append_nil, body, if_pos hlast, Text.rawLines_append_newline ht] at hl
      obtain rfl := List.mem_singleton.1 hl
      exact ⟨t, rfl, ht, .inr (.inr List.mem_cons_self)⟩
    · rw [body_append _ hrest, List.append_assoc, List.singleton_append,
        Text.rawLines_append_newline ht] at hl
      rcases List.mem_cons.1 hl with rfl | hl
      · exact ⟨t, rfl, ht, .inr (.inr List.mem_cons_self)⟩
      · obtain ⟨u, hu, hnewline, hmem⟩ := ih hl
        exact ⟨u, hu, hnewline, hmem.imp_right
          (Or.imp (List.mem_cons_of_mem _) (List.mem_cons_of_mem _))⟩

/-! ## The whole script -/

/-- The line that puts the library's directory on the load path. -/
def loadLine (lib : Text) : Text := "$LOAD_PATH.unshift ".toList ++ literal lib ++ ['\n']

/-- A library's path without a line feed makes one line. -/
theorem rawLines_loadLine {lib : Text} (h : '\n' ∉ lib) :
    Text.rawLines (loadLine lib) = [loadLine lib] := by
  have hescaped : '\n' ∉ lib.flatMap escapeChar := by
    intro hmem
    obtain ⟨c, hc, hmem⟩ := List.mem_flatMap.1 hmem
    unfold escapeChar at hmem
    have hne : c ≠ '\n' := fun e => h (e ▸ hc)
    split at hmem
    · simp [hne.symm] at hmem
    · simp [hne.symm] at hmem
  have hline : '\n' ∉ "$LOAD_PATH.unshift ".toList ++ literal lib := by
    simp [literal, hescaped]
  exact Text.rawLines_append_newline hline []

/-- **The lines of a script** are those of the load path, `begin`, the lines of the body, and three
more. -/
theorem rawLines_wrap (code lib : Text) :
    Text.rawLines (wrap code lib) = Text.rawLines (loadLine lib) ++ "begin\n".toList ::
      (Text.rawLines (body code) ++ ["rescue Exception => __docmark_exception\n".toList,
        "  puts \"raises #\x7b__docmark_exception.class\x7d\"\n".toList, "end\n".toList]) := by
  have hload : (loadLine lib).EndsLine := Text.endsLine_newline _
  have hbegin : Text.EndsLine "begin\n".toList := by decide +kernel
  have hbeginLines : Text.rawLines "begin\n".toList = ["begin\n".toList] := by decide +kernel
  have hpostamble : Text.rawLines postamble = ["rescue Exception => __docmark_exception\n".toList,
      "  puts \"raises #\x7b__docmark_exception.class\x7d\"\n".toList, "end\n".toList] := by
    decide +kernel
  have hbreak : "\nbegin\n".toList = ['\n'] ++ "begin\n".toList := by decide +kernel
  have hpreamble : preamble lib = loadLine lib ++ "begin\n".toList :=
    (congrArg ("$LOAD_PATH.unshift ".toList ++ literal lib ++ ·) hbreak).trans
      (List.append_assoc _ _ _).symm
  rw [wrap, hpreamble, List.append_assoc, List.append_assoc, Text.rawLines_append hload,
    Text.rawLines_append hbegin, Text.rawLines_append (endsLine_body code), hbeginLines, hpostamble]
  rfl

/-- **The code of an example stays inside its script.**  Between `begin` and `rescue`, which have a
line each, stand the lines of the code, each of them ended; the last line feed is added if it is
missing.  They are blank or start with white space, and none of them shows a command, so none starts
with a word. -/
theorem lines_wrap {s : Section} {b : Block} {e : Example} (hb : b ∈ s.blocks)
    (he : Example.ofBlock b = .ok e) (lib : Text) :
    ∃ lines : List Text,
      Text.rawLines (wrap e.code lib) = Text.rawLines (loadLine lib) ++ "begin\n".toList ::
        (lines ++ ["rescue Exception => __docmark_exception\n".toList,
          "  puts \"raises #\x7b__docmark_exception.class\x7d\"\n".toList, "end\n".toList]) ∧
      lines.flatten = (if e.code.getLast? = some '\n' then e.code else e.code ++ ['\n']) ∧
      (∀ l ∈ lines, (∃ t, l = t ++ ['\n'] ∧ '\n' ∉ t) ∧ Indented l ∧
        ∀ w, Text.startsSolid w = true → ¬ w <+: l) ∧
      ('\n' ∉ lib → Text.rawLines (loadLine lib) = [loadLine lib]) := by
  obtain ⟨-, hcloses, -⟩ := Section.lines_of_mem_blocks hb
  obtain ⟨code, rest, hlines, hcode⟩ := (((Section.reads_iff hb).2.1 _).1 he).exists_code
  have hcut := Section.isCut_lines b
  rw [hlines, List.map_append] at hcut
  -- What the lines of the code keep from the lines of the block they are.
  have hcodeLine : ∀ t ∈ Text.rawLines e.code, Indented t ∧ Indented (t ++ ['\n']) := by
    intro t ht
    rw [hcode, ← Line.map_raw_place 0 (Text.rawLines _)] at ht
    obtain ⟨l, hl, rfl⟩ := List.mem_map.1 ht
    obtain ⟨m, hm, hcommand, hraw⟩ := Example.exists_raw_of_mem_codeOf hcut.append.1 hl
    rw [hraw]
    exact indented_of_line (hcloses m (hlines ▸ List.mem_append_left _ hm)) hcommand
  refine ⟨Text.rawLines (body e.code), rawLines_wrap e.code lib, Text.flatten_rawLines _,
    fun l hl => ?_, rawLines_loadLine⟩
  obtain ⟨t, rfl, ht, hmem⟩ := exists_of_mem_rawLines_body hl
  have hindented : Indented (t ++ ['\n']) := by
    rcases hmem with rfl | hmem | hmem
    · exact .inl rfl
    · exact (hcodeLine t hmem).2
    · exact (hcodeLine _ hmem).1
  exact ⟨⟨t, rfl, ht⟩, hindented, fun w => hindented.not_prefix⟩

/-- A block that ends with the text, and whose last line is a comment; its shell command is left
out. -/
theorem lines_wrap_unterminated :
    let s : Section := ⟨"A".toList, 1, ⟨0, 3⟩, "  p 1\n  % ls\n\n    # end".toList, 4, 0⟩
    let b : Block := ⟨0, "A".toList, s.body, ⟨4, 27⟩, 0⟩
    let code := "  p 1\n\n    # end".toList
    b ∈ s.blocks ∧ Example.ofBlock b = .ok ⟨0, code, [], .inline, ⟨4, 27⟩⟩ ∧
      ∃ lines : List Text, lines.flatten = code ++ ['\n'] ∧ (∀ l ∈ lines, Indented l) ∧
        Text.rawLines (wrap code "lib".toList) =
          ["$LOAD_PATH.unshift \"lib\"\n".toList, "begin\n".toList] ++ lines ++
            ["rescue Exception => __docmark_exception\n".toList,
              "  puts \"raises #\x7b__docmark_exception.class\x7d\"\n".toList, "end\n".toList] := by
  intro s b code
  have hb : b ∈ s.blocks := by decide +kernel
  have he : Example.ofBlock b = .ok ⟨0, code, [], .inline, ⟨4, 27⟩⟩ := by decide +kernel
  obtain ⟨lines, hwrap, hflatten, hlines, -⟩ := lines_wrap hb he "lib".toList
  refine ⟨hb, he, lines, hflatten, fun l hl => (hlines l hl).2.1, hwrap.trans ?_⟩
  have hload : Text.rawLines (loadLine "lib".toList) = ["$LOAD_PATH.unshift \"lib\"\n".toList] := by
    decide +kernel
  rw [hload]
  rfl

end Script
end Doctest
