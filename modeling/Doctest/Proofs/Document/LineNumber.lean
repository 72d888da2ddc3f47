/-
# The line of an offset

| offset | its line |
| --- | --- |
| of a byte of the source | the line that holds the byte |
| past the last byte, after a line feed or nothing | the one after the last line |
| past the last byte, after anything else | the last line |

Every offset has one line by this table (`existsUnique_lineAt`).  Counting the line feeds before the
offset gives that line, unless the offset falls inside a character: no text has these first bytes,
and so there is no number (`lineOf?_numbers_lines`).
-/

import Doctest.Proofs.Document.Lines
import Mathlib.Data.List.Infix

namespace Doctest

/-! ## Offsets inside characters -/

namespace Text

/-- The offset falls inside a character of the text, past its first byte. -/
def SplitsChar (t : Text) (offset : Nat) : Prop :=
  ∃ a c b, t = a ++ c :: b ∧ bytes a < offset ∧ offset < bytes a + c.utf8Size

/-- An offset inside a character is one of a byte of the text. -/
theorem SplitsChar.lt_bytes {t : Text} {offset : Nat} (h : SplitsChar t offset) :
    offset < bytes t := by
  obtain ⟨a, c, b, rfl, -, hlt⟩ := h
  rw [bytes_append, bytes_cons]
  omega

theorem splitsChar_cons {c : Char} {t : Text} {offset : Nat} (h : c.utf8Size ≤ offset) :
    SplitsChar (c :: t) offset ↔ SplitsChar t (offset - c.utf8Size) := by
  constructor
  · rintro ⟨_ | ⟨d, a⟩, e, b, ht, hlo, hhi⟩
    · obtain ⟨rfl, rfl⟩ := List.cons.inj ht
      rw [bytes_nil] at hhi
      omega
    · obtain ⟨rfl, rfl⟩ := List.cons.inj ht
      rw [bytes_cons] at hlo hhi
      exact ⟨a, e, b, rfl, by omega, by omega⟩
  · rintro ⟨a, e, b, rfl, hlo, hhi⟩
    exact ⟨c :: a, e, b, rfl, by rw [bytes_cons]; omega, by rw [bytes_cons]; omega⟩

/-- **There are no first bytes exactly if they would end inside a character.** -/
theorem takeBytes?_eq_none_iff {t : Text} {n : Nat} (hn : n ≤ bytes t) :
    takeBytes? t n = none ↔ SplitsChar t n := by
  induction t, n using takeBytes?.induct with
  | case1 t =>
    rw [takeBytes?.eq_1]
    refine iff_of_false (Option.some_ne_none _) ?_
    rintro ⟨_, _, _, _, hlo, _⟩
    exact Nat.not_lt_zero _ hlo
  | case2 n => exact absurd hn (Nat.not_succ_le_zero n)
  | case3 c t n hc ih =>
    rw [bytes_cons] at hn
    rw [takeBytes?, if_pos hc, Option.map_eq_none_iff, ih (by omega), splitsChar_cons hc]
  | case4 c t n hc =>
    rw [takeBytes?, if_neg hc]
    exact iff_of_true rfl ⟨[], c, t, rfl, Nat.succ_pos n, by rw [bytes_nil]; omega⟩

/-- Of two starts of a text the one with fewer bytes is a start of the other. -/
theorem prefix_of_bytes_le {t a b : Text} (ha : a <+: t) (hb : b <+: t) (hle : bytes a ≤ bytes b) :
    a <+: b := by
  rcases List.prefix_or_prefix_of_prefix ha hb with h | ⟨r, rfl⟩
  · exact h
  · rw [bytes_append] at hle
    obtain rfl : r = [] := bytes_eq_zero_iff.1 (by omega)
    rw [List.append_nil]

/-! ## Counting line feeds -/

theorem endsLine_append {s t : Text} (ht : t ≠ []) : EndsLine (s ++ t) ↔ EndsLine t := by
  rw [EndsLine, List.getLast?_append, Option.or_of_isSome (List.getLast?_isSome.2 ht)]
  rfl

/-- **There are as many lines as line feeds**, and one more if the text does not end in one. -/
theorem IsCut.length_eq {ls : List Text} (h : IsCut ls) :
    ls.length = ls.flatten.count '\n' + if EndsLine ls.flatten then 0 else 1 := by
  induction h with
  | nil => rfl
  | @last l hne hl =>
    obtain ⟨c, hc⟩ := Option.isSome_iff_exists.1 (List.getLast?_isSome.2 hne)
    have hopen : ¬ EndsLine l := fun hends => hl (hends c hc ▸ List.mem_of_getLast? hc)
    rw [List.flatten_singleton, List.count_eq_zero_of_not_mem hl, if_neg hopen]
    rfl
  | @line l ls hl _ ih =>
    have hends : EndsLine ((l ++ ['\n']) ++ ls.flatten) ↔ EndsLine ls.flatten := by
      by_cases hnil : ls.flatten = []
      · rw [hnil, List.append_nil]
        exact iff_of_true (endsLine_newline l) nofun
      · exact endsLine_append hnil
    have hone : (l ++ ['\n']).count '\n' = 1 := by
      rw [List.count_append, List.count_eq_zero_of_not_mem hl]
      rfl
    rw [List.length_cons, List.flatten_cons, List.count_append, hone, ih, if_congr hends rfl rfl]
    omega

/-- A start of a piece that is not the whole piece has no line feed. -/
theorem IsCut.newline_not_mem_start {l m : Text} (h : IsCut [l]) (hm : m <+: l)
    (hlt : bytes m < bytes l) : '\n' ∉ m := by
  cases h with
  | last _ hl => exact fun hmem => hl (hm.subset hmem)
  | @line t _ ht _ =>
    rcases List.prefix_concat_iff.1 hm with rfl | hmt
    · exact absurd hlt (lt_irrefl _)
    · exact fun hmem => ht (hmt.subset hmem)

end Text

/-! ## Lines and offsets -/

namespace Line

/-- **Each byte of consecutive lines is in one of them.** -/
theorem Consecutive.exists_holding {offset n : Nat} {ls : List Line} (h : Consecutive offset ls)
    (hle : offset ≤ n) (hlt : n < offset + Text.bytes (join ls)) :
    ∃ before l after, ls = before ++ l :: after ∧ l.start ≤ n ∧ n < l.stop := by
  induction ls generalizing offset with
  | nil =>
    rw [join_nil, Text.bytes_nil] at hlt
    omega
  | cons l ls ih =>
    obtain ⟨hl, hls⟩ := h
    rw [join_cons, Text.bytes_append, ← Nat.add_assoc, ← stop_eq hl] at hlt
    by_cases hn : n < l.stop
    · exact ⟨[], l, ls, rfl, by omega, hn⟩
    · obtain ⟨before, m, after, rfl, hm⟩ := ih hls (by omega) hlt
      exact ⟨l :: before, m, after, rfl, hm⟩

/-- The lines before the one that holds a byte are those that stop before it. -/
theorem Consecutive.countP_stop {offset n : Nat} {before after : List Line} {l : Line}
    (h : Consecutive offset (before ++ l :: after)) (hstart : l.start ≤ n) (hstop : n < l.stop) :
    (before ++ l :: after).countP (·.stop ≤ n) = before.length := by
  obtain ⟨hbefore, hl, hafter⟩ := consecutive_append.1 h
  have hall : before.countP (·.stop ≤ n) = before.length :=
    List.countP_eq_length.2 fun m hm => decide_eq_true (by have := hbefore.bounds hm; omega)
  have hnone : after.countP (·.stop ≤ n) = 0 := by
    refine List.countP_eq_zero.2 fun m hm => ?_
    have hstart' := (hafter.bounds hm).1
    rw [decide_eq_true_eq, stop]
    omega
  rw [List.countP_append, hall, List.countP_cons_of_neg (by simpa using hstop), hnone, Nat.add_zero]

end Line

namespace Document

variable {d : Document} {offset line : Nat}

/-- The line, counted from 1, that an offset belongs to. -/
inductive LineAt (d : Document) (offset : Nat) : Nat → Prop
  | holding {before after : List Line} {l : Line} : d.lines = before ++ l :: after →
      l.start ≤ offset → offset < l.stop → LineAt d offset (before.length + 1)
  | next : Text.bytes d.source ≤ offset → d.source.EndsLine → LineAt d offset (d.lines.length + 1)
  | last : Text.bytes d.source ≤ offset → ¬ d.source.EndsLine → LineAt d offset d.lines.length

/-- A line that holds an offset stops in the source. -/
theorem lt_bytes_of_holding {before after : List Line} {l : Line}
    (hls : d.lines = before ++ l :: after) (hstop : offset < l.stop) :
    offset < Text.bytes d.source := by
  have hl : l ∈ d.lines := by simp [hls]
  have hbound := (d.consecutive_lines.bounds hl).2
  rw [d.join_lines] at hbound
  omega

/-- **Every offset has one line.** -/
theorem existsUnique_lineAt (d : Document) (offset : Nat) : ∃! line, d.LineAt offset line := by
  by_cases hlt : offset < Text.bytes d.source
  · obtain ⟨before, l, after, hls, hstart, hstop⟩ :=
      d.consecutive_lines.exists_holding (Nat.zero_le offset) (by rwa [d.join_lines, Nat.zero_add])
    refine ⟨_, .holding hls hstart hstop, fun line hline => ?_⟩
    cases hline with
    | @holding before' after' l' hls' hstart' hstop' =>
      -- Both lines come after the lines that stop before the offset.
      have hcount := (hls ▸ d.consecutive_lines).countP_stop hstart hstop
      have hcount' := (hls' ▸ d.consecutive_lines).countP_stop hstart' hstop'
      rw [← hls] at hcount
      rw [← hls'] at hcount'
      omega
    | next hle => omega
    | last hle => omega
  · have hle : Text.bytes d.source ≤ offset := Nat.le_of_not_lt hlt
    have hnone : ∀ before l after, d.lines = before ++ l :: after → ¬ offset < l.stop :=
      fun before l after hls hstop => hlt (lt_bytes_of_holding hls hstop)
    by_cases hends : d.source.EndsLine
    · refine ⟨_, .next hle hends, fun line hline => ?_⟩
      cases hline with
      | holding hls _ hstop => exact absurd hstop (hnone _ _ _ hls)
      | next => rfl
      | last _ hopen => exact absurd hends hopen
    · refine ⟨_, .last hle hends, fun line hline => ?_⟩
      cases hline with
      | holding hls _ hstop => exact absurd hstop (hnone _ _ _ hls)
      | next _ hends' => exact absurd hends' hends
      | last => rfl

/-- There is no number exactly for an offset inside a character. -/
theorem lineOf?_eq_none_iff : d.lineOf? offset = none ↔ d.source.SplitsChar offset := by
  rw [lineOf?, Option.map_eq_none_iff, Text.takeBytes?_eq_none_iff (Nat.min_le_right _ _)]
  rcases Nat.le_total offset (Text.bytes d.source) with hle | hle
  · rw [Nat.min_eq_left hle]
  · rw [Nat.min_eq_right hle]
    exact iff_of_false (fun h => absurd h.lt_bytes (lt_irrefl _))
      fun h => absurd h.lt_bytes (Nat.not_lt.2 hle)

/-- The number of an offset is one more than the number of line feeds in a start of the source. -/
theorem lineOf?_eq_some_iff_count : d.lineOf? offset = some line ↔ ∃ a, a <+: d.source ∧
    Text.bytes a = min offset (Text.bytes d.source) ∧ line = a.count '\n' + 1 := by
  rw [lineOf?, Option.map_eq_some_iff]
  constructor
  · rintro ⟨a, ha, rfl⟩
    obtain ⟨b, hb, hbytes⟩ := Text.takeBytes?_eq_some_iff.1 ha
    exact ⟨a, ⟨b, hb.symm⟩, hbytes, rfl⟩
  · rintro ⟨a, ⟨b, hb⟩, hbytes, rfl⟩
    exact ⟨a, Text.takeBytes?_eq_some_iff.2 ⟨b, hb.symm, hbytes⟩, rfl⟩

/-- The line feeds before a byte are those of the lines before its line. -/
theorem lineAt_count_of_lt {a : Text} (ha : a <+: d.source)
    (hlt : Text.bytes a < Text.bytes d.source) :
    d.LineAt (Text.bytes a) (a.count '\n' + 1) := by
  obtain ⟨before, l, after, hls, hstart, hstop⟩ :=
    d.consecutive_lines.exists_holding (Nat.zero_le _) (by rwa [d.join_lines, Nat.zero_add])
  have hcut := d.isCut_lines
  rw [hls, List.map_append, List.map_cons] at hcut
  have hsource : d.source = Line.join before ++ (l.raw ++ Line.join after) := by
    rw [← d.join_lines, hls, Line.join_append, Line.join_cons]
  have hl : l.start = Text.bytes (Line.join before) := by
    have := (hls ▸ d.consecutive_lines).start_eq
    omega
  -- The start of the source is the lines before, and a start of the line.
  obtain ⟨m, rfl⟩ := Text.prefix_of_bytes_le ⟨_, hsource.symm⟩ ha (by omega)
  have hwithin : Text.bytes m < Text.bytes l.raw := by
    rw [Text.bytes_append, Line.stop] at hstop
    omega
  have hm : m <+: l.raw := by
    rw [hsource, List.prefix_append_right_inj] at ha
    exact Text.prefix_of_bytes_le ha (List.prefix_append _ _) (Nat.le_of_lt hwithin)
  have hlast : '\n' ∉ m := (hcut.of_mem (by simp)).newline_not_mem_start hm hwithin
  have hcount := hcut.count_newline (List.cons_ne_nil _ _)
  rw [← List.flatMap_def, List.length_map] at hcount
  have hline : (Line.join before ++ m).count '\n' = before.length := by
    rw [List.count_append, List.count_eq_zero_of_not_mem hlast, Nat.add_zero]
    exact hcount
  rw [hline]
  exact .holding hls hstart hstop

/-- Past the end all line feeds of the source are counted. -/
theorem lineAt_count_of_le (hle : Text.bytes d.source ≤ offset) :
    d.LineAt offset (d.source.count '\n' + 1) := by
  have hlength := d.isCut_lines.length_eq
  rw [← List.flatMap_def, List.length_map] at hlength
  have hjoin : d.lines.flatMap Line.raw = d.source := d.join_lines
  rw [hjoin] at hlength
  by_cases hends : d.source.EndsLine
  · rw [if_pos hends, Nat.add_zero] at hlength
    exact hlength ▸ .next hle hends
  · rw [if_neg hends] at hlength
    exact hlength ▸ .last hle hends

/-- **The number, if there is one, is that of the line.** -/
theorem lineAt_of_lineOf? (h : d.lineOf? offset = some line) : d.LineAt offset line := by
  obtain ⟨a, ha, hbytes, rfl⟩ := lineOf?_eq_some_iff_count.1 h
  by_cases hlt : offset < Text.bytes d.source
  · obtain rfl : Text.bytes a = offset := hbytes.trans (Nat.min_eq_left (Nat.le_of_lt hlt))
    exact lineAt_count_of_lt ha hlt
  · have hle : Text.bytes d.source ≤ offset := Nat.le_of_not_lt hlt
    rw [Nat.min_eq_right hle] at hbytes
    obtain rfl : a = d.source := by
      have hback := Text.prefix_of_bytes_le (List.prefix_refl _) ha (Nat.le_of_eq hbytes.symm)
      exact ha.eq_of_length_le hback.length_le
    exact lineAt_count_of_le hle

/-- Numbers do not go down. -/
theorem lineOf?_le {offset' line' : Nat} (hle : offset ≤ offset') (h : d.lineOf? offset = some line)
    (h' : d.lineOf? offset' = some line') : line ≤ line' := by
  obtain ⟨a, ha, hbytes, rfl⟩ := lineOf?_eq_some_iff_count.1 h
  obtain ⟨a', ha', hbytes', rfl⟩ := lineOf?_eq_some_iff_count.1 h'
  have hinitial : a <+: a' := Text.prefix_of_bytes_le ha ha' (by omega)
  exact Nat.succ_le_succ (hinitial.sublist.count_le '\n')

/-- **Every offset between characters has the number of its line.**  Each offset, also one past the
end, belongs to one line.  There is a number for it unless it falls inside a character, and it is
the number of that line.  Further on in the source numbers do not go down. -/
theorem lineOf?_numbers_lines (d : Document) :
    (∀ offset, ∃! line, d.LineAt offset line) ∧
      (∀ offset line, d.lineOf? offset = some line ↔
        ¬ d.source.SplitsChar offset ∧ d.LineAt offset line) ∧
      (∀ offset, d.lineOf? offset = none ↔ d.source.SplitsChar offset) ∧
      ∀ offset offset' line line', offset ≤ offset' → d.lineOf? offset = some line →
        d.lineOf? offset' = some line' → line ≤ line' := by
  refine ⟨d.existsUnique_lineAt, fun offset line => ⟨fun h => ⟨?_, lineAt_of_lineOf? h⟩, ?_⟩,
    fun offset => lineOf?_eq_none_iff, fun offset offset' line line' => lineOf?_le⟩
  · rw [← lineOf?_eq_none_iff, h]
    exact Option.some_ne_none line
  · rintro ⟨hsplits, hline⟩
    obtain ⟨line', h⟩ := Option.ne_none_iff_exists'.1 (mt lineOf?_eq_none_iff.1 hsplits)
    rw [h, (d.existsUnique_lineAt offset).unique hline (lineAt_of_lineOf? h)]

/-- Two lines that start with characters of two bytes: the line feed of the first line belongs to
it, the end of the source to a line of its own. -/
theorem lineOf?_numbers_lines_accented :
    let d : Document := ⟨.ofText "README.rdoc".toList, "é\nà\n".toList, 0⟩
    d.lineOf? 2 = some 1 ∧ d.LineAt 2 1 ∧ d.source.SplitsChar 4 ∧ d.lineOf? 4 = none ∧
      d.lineOf? 9 = some 3 ∧ d.LineAt 9 3 := by
  intro d
  obtain ⟨-, hsome, hnone, -⟩ := lineOf?_numbers_lines d
  have hsplits : d.source.SplitsChar 4 := ⟨"é\n".toList, 'à', ['\n'], rfl, by decide, by decide⟩
  have hfeed : d.lineOf? 2 = some 1 := by decide
  have hend : d.lineOf? 9 = some 3 := by decide
  exact ⟨hfeed, ((hsome 2 1).1 hfeed).2, hsplits, (hnone 4).2 hsplits, hend, ((hsome 9 3).1 hend).2⟩

/-- An offset inside a character belongs to a line, and yet there is no number for it. -/
theorem lineOf?_inside_character :
    let d : Document := ⟨.ofText "README.rdoc".toList, ['é'], 0⟩
    d.LineAt 1 1 ∧ d.lineOf? 1 = none := by
  intro d
  have hls : d.lines = [] ++ ⟨0, ['é']⟩ :: [] := rfl
  exact ⟨.holding hls (by decide) (by decide), by decide⟩

end Document
end Doctest
