/-
# Lines that follow each other

The lines of a text leave no gap: each starts where the one before it stops, and the first starts at
the offset of the text.  Any part of such a list of lines has this form again, from the offset that
the lines before it reach (`consecutive_append`), and that is what turns a statement on lists of
lines into one on byte offsets.
-/

import Doctest.Document.Basic
import Doctest.Proofs.Text.Lines
import Doctest.Proofs.Text.Slice

namespace Doctest
namespace Line

/-- Each line starts where the one before it stops, the first one at the given offset. -/
def Consecutive : Nat → List Line → Prop
  | _, [] => True
  | offset, l :: ls => l.start = offset ∧ Consecutive l.stop ls

@[simp] theorem consecutive_nil (offset : Nat) : Consecutive offset [] := trivial

@[simp] theorem consecutive_cons {offset : Nat} {l : Line} {ls : List Line} :
    Consecutive offset (l :: ls) ↔ l.start = offset ∧ Consecutive l.stop ls := Iff.rfl

@[simp] theorem join_nil : join [] = [] := rfl

@[simp] theorem join_cons (l : Line) (ls : List Line) : join (l :: ls) = l.raw ++ join ls := rfl

@[simp] theorem join_append (ls ms : List Line) : join (ls ++ ms) = join ls ++ join ms :=
  List.flatMap_append

/-- The stop of a line that starts at the offset. -/
theorem stop_eq {offset : Nat} {l : Line} (h : l.start = offset) :
    l.stop = offset + Text.bytes l.raw := by
  rw [stop, h]

/-- The text of a line is the start of the line. -/
theorem text_prefix (l : Line) : l.text <+: l.raw := Text.trimEndWhile_isPrefix _ _

/-- **The text of a line** is the line without the line feeds and carriage returns that it ends
in. -/
theorem raw_eq_text_append (l : Line) :
    (∃ e, l.raw = l.text ++ e ∧ ∀ c ∈ e, c = '\n' ∨ c = '\r') ∧
      l.text.getLast? ≠ some '\n' ∧ l.text.getLast? ≠ some '\r' := by
  obtain ⟨e, hraw, he⟩ := Text.exists_trimEndWhile_append Text.isTerminator l.raw
  have hlast := Text.isTerminator_getLast?_stripTerminators l.raw
  refine ⟨⟨e, hraw, fun c hc => ?_⟩, fun h => ?_, fun h => ?_⟩
  · simpa [Text.isTerminator] using he c hc
  · cases hlast _ h
  · cases hlast _ h

/-- A line is not shorter than its text. -/
theorem bytes_text_le (l : Line) : Text.bytes l.text ≤ Text.bytes l.raw := by
  obtain ⟨rest, hraw⟩ := l.text_prefix
  rw [← hraw, Text.bytes_append]
  omega

/-- **Consecutive lines split into two runs of consecutive lines**, the second of which starts where
the first one ends. -/
theorem consecutive_append {offset : Nat} {ls ms : List Line} :
    Consecutive offset (ls ++ ms) ↔
      Consecutive offset ls ∧ Consecutive (offset + Text.bytes (join ls)) ms := by
  induction ls generalizing offset with
  | nil => simp
  | cons l ls ih =>
    simp only [List.cons_append, consecutive_cons, ih, join_cons, Text.bytes_append, and_assoc]
    constructor
    · rintro ⟨hl, hls, hms⟩
      rw [stop_eq hl, Nat.add_assoc] at hms
      exact ⟨hl, hls, hms⟩
    · rintro ⟨hl, hls, hms⟩
      refine ⟨hl, hls, ?_⟩
      rwa [stop_eq hl, Nat.add_assoc]

/-- A line starts where the lines before it stop. -/
theorem Consecutive.start_eq {offset : Nat} {before after : List Line} {l : Line}
    (h : Consecutive offset (before ++ l :: after)) :
    l.start = offset + Text.bytes (join before) :=
  (consecutive_append.1 h).2.1

theorem consecutive_place (offset : Nat) (rs : List Text) :
    Consecutive offset (place offset rs) := by
  induction rs generalizing offset with
  | nil => trivial
  | cons r rs ih => exact ⟨rfl, ih _⟩

/-- The lines of a text are consecutive. -/
theorem consecutive_ofText (offset : Nat) (t : Text) : Consecutive offset (ofText offset t) :=
  consecutive_place _ _

/-- Placing a list of pieces places its second part after its first. -/
theorem place_append (offset : Nat) (rs ss : List Text) :
    place offset (rs ++ ss) = place offset rs ++ place (offset + Text.bytes rs.flatten) ss := by
  induction rs generalizing offset with
  | nil => simp [place]
  | cons r rs ih => simp [place, ih, Nat.add_assoc]

/-- **The lines of a text that follows whole lines** come after those. -/
theorem ofText_append {s : Text} (h : s.EndsLine) (offset : Nat) (t : Text) :
    ofText offset (s ++ t) = ofText offset s ++ ofText (offset + Text.bytes s) t := by
  rw [ofText, Text.rawLines_append h, place_append, Text.flatten_rawLines]
  rfl

/-- A line lies between the ends of the run that it belongs to. -/
theorem Consecutive.bounds {offset : Nat} {ls : List Line} (h : Consecutive offset ls) {l : Line}
    (hl : l ∈ ls) : offset ≤ l.start ∧ l.stop ≤ offset + Text.bytes (join ls) := by
  induction ls generalizing offset with
  | nil => simp at hl
  | cons m ls ih =>
    obtain ⟨hm, hls⟩ := h
    have hstop := stop_eq hm
    rw [join_cons, Text.bytes_append]
    rcases List.mem_cons.1 hl with rfl | hl
    · omega
    · have := ih hls hl
      omega

/-! ## Runs of lines -/

/-- The lines are those of the text that they make up, which starts at the offset. -/
def CutAt (offset : Nat) (ls : List Line) : Prop := ofText offset (join ls) = ls

theorem map_raw_place (offset : Nat) (rs : List Text) : (place offset rs).map raw = rs := by
  induction rs generalizing offset with
  | nil => rfl
  | cons r rs ih => rw [place, List.map_cons, ih]

/-- Consecutive lines are their raw texts placed one after the other. -/
theorem Consecutive.place_map_raw {offset : Nat} {ls : List Line} (h : Consecutive offset ls) :
    place offset (ls.map raw) = ls := by
  induction ls generalizing offset with
  | nil => rfl
  | cons l ls ih =>
    obtain ⟨rfl, hls⟩ := h
    rw [List.map_cons, place, ← stop_eq rfl, ih hls]

theorem cutAt_iff {offset : Nat} {ls : List Line} :
    CutAt offset ls ↔ Consecutive offset ls ∧ Text.IsCut (ls.map raw) := by
  constructor
  · intro h
    have hraw : Text.rawLines (join ls) = ls.map raw := by
      rw [← map_raw_place offset (Text.rawLines (join ls))]
      exact congrArg (List.map raw) h
    exact ⟨h ▸ consecutive_ofText offset _, hraw ▸ Text.isCut_rawLines _⟩
  · rintro ⟨hc, hcut⟩
    rw [CutAt, ofText, join, List.flatMap_def, hcut.rawLines_flatten, hc.place_map_raw]

theorem cutAt_ofText (offset : Nat) (t : Text) : CutAt offset (ofText offset t) := by
  rw [CutAt, join_ofText]

/-- **A run of lines of a text is the lines of a part of the text**: cutting the part on its own
gives the same lines at the same places. -/
theorem CutAt.append {offset : Nat} {ls ms : List Line} (h : CutAt offset (ls ++ ms)) :
    CutAt offset ls ∧ CutAt (offset + Text.bytes (join ls)) ms := by
  obtain ⟨hc, hcut⟩ := cutAt_iff.1 h
  obtain ⟨hls, hms⟩ := consecutive_append.1 hc
  rw [List.map_append] at hcut
  exact ⟨cutAt_iff.2 ⟨hls, hcut.append.1⟩, cutAt_iff.2 ⟨hms, hcut.append.2⟩⟩

/-- A run of lines between others is the lines of a part of the text as well. -/
theorem CutAt.middle {offset : Nat} {before mine after : List Line}
    (h : CutAt offset (before ++ mine ++ after)) :
    CutAt (offset + Text.bytes (join before)) mine :=
  h.append.1.append.2

/-- **A run of lines is a slice of the text that the lines make up.** -/
theorem slice?_join (before mine after : List Line) :
    Text.slice? (join (before ++ mine ++ after)) (Text.bytes (join before))
      (Text.bytes (join before) + Text.bytes (join mine)) = some (join mine) :=
  Text.slice?_eq_some_iff.2 ⟨join before, join after, by simp, rfl, rfl⟩

/-- A line that others follow ends in a line feed, so the text up to it does. -/
theorem CutAt.exists_join_eq {offset : Nat} {mine after : List Line}
    (h : CutAt offset (mine ++ after)) (hmine : mine ≠ []) (hafter : after ≠ []) :
    ∃ t, join mine = t ++ ['\n'] := by
  obtain ⟨init, last, rfl⟩ := (List.eq_nil_or_concat mine).resolve_left hmine
  rw [List.concat_eq_append] at h ⊢
  have hcut := (cutAt_iff.1 h).2
  rw [List.map_append] at hcut
  obtain ⟨t, ht, -⟩ := hcut.exists_line (by simpa using hafter) last.raw (by simp)
  exact ⟨join init ++ t, by simp [ht]⟩

/-- Past the lines read so far come those that are unread. -/
theorem dropBytes?_join (read unread : List Line) :
    Text.dropBytes? (join (read ++ unread)) (Text.bytes (join read)) = some (join unread) :=
  Text.dropBytes?_eq_some_iff.2 ⟨join read, join_append read unread, rfl⟩

/-! ## Written lines -/

/-- The lines of a text that was written line by line, each ended by a line feed. -/
def written (offset : Nat) (ls : List Text) : List Line := place offset (ls.map (· ++ ['\n']))

@[simp] theorem written_nil (offset : Nat) : written offset [] = [] := rfl

theorem written_cons (offset : Nat) (t : Text) (ls : List Text) :
    written offset (t :: ls) =
      ⟨offset, t ++ ['\n']⟩ :: written (offset + Text.bytes (Text.unlines [t])) ls := by
  rw [Text.unlines_cons, Text.unlines_nil]
  rfl

theorem written_append (offset : Nat) (ls ms : List Text) :
    written offset (ls ++ ms) =
      written offset ls ++ written (offset + Text.bytes (Text.unlines ls)) ms := by
  rw [written, List.map_append, place_append, ← List.flatMap_def]
  rfl

@[simp] theorem join_written (offset : Nat) (ls : List Text) :
    join (written offset ls) = Text.unlines ls := by
  rw [written, join_place, ← List.flatMap_def]
  rfl

/-- **Lines that are read are the lines that were written**, if none holds a line feed. -/
theorem ofText_unlines (offset : Nat) {ls : List Text} (h : ∀ t ∈ ls, '\n' ∉ t) :
    ofText offset (Text.unlines ls) = written offset ls := by
  rw [ofText, Text.rawLines_unlines h, written]

/-- A written line is one of the texts and its line feed. -/
theorem exists_of_mem_written {offset : Nat} {ls : List Text} {l : Line}
    (hl : l ∈ written offset ls) : ∃ t ∈ ls, l.raw = t ++ ['\n'] := by
  induction ls generalizing offset with
  | nil => simp at hl
  | cons t ls ih =>
    rw [written_cons] at hl
    rcases List.mem_cons.1 hl with rfl | hl
    · exact ⟨t, List.mem_cons_self, rfl⟩
    · obtain ⟨u, hu, hraw⟩ := ih hl
      exact ⟨u, List.mem_cons_of_mem _ hu, hraw⟩

/-- The text of a written line, when it does not end in a terminator itself. -/
theorem text_of_raw_eq {l : Line} {t : Text} (hraw : l.raw = t ++ ['\n'])
    (h : ∀ c ∈ t.getLast?, Text.isTerminator c = false) : l.text = t := by
  rw [text, hraw, Text.stripTerminators_line h]

/-- **What holds of the texts that were written holds of the texts of the lines.** -/
theorem forall_text_written {offset : Nat} {ls : List Text} (hls : ∀ t ∈ ls, t.IsLine)
    {p : Text → Prop} (h : ∀ t ∈ ls, p t) : ∀ l ∈ written offset ls, p l.text := by
  intro l hl
  obtain ⟨t, ht, hraw⟩ := exists_of_mem_written hl
  rw [text_of_raw_eq hraw (hls t ht).getLast?]
  exact h t ht

/-- The texts of the lines are the texts that were written. -/
theorem map_text_written (offset : Nat) {ls : List Text} (hls : ∀ t ∈ ls, t.IsLine) :
    (written offset ls).map text = ls := by
  induction ls generalizing offset with
  | nil => rfl
  | cons t ls ih =>
    rw [List.forall_mem_cons] at hls
    rw [written_cons, List.map_cons, ih _ hls.2, text_of_raw_eq rfl hls.1.getLast?]

end Line

namespace Document

/-- The text of the document in a span, when the span cuts it between characters. -/
def slice? (d : Document) (s : Span) : Option Text := Text.slice? d.source s.start s.stop

/-- The lines of a document make up its source. -/
@[simp] theorem join_lines (d : Document) : Line.join d.lines = d.source :=
  Line.join_ofText 0 d.source

/-- The lines of a document are consecutive. -/
theorem consecutive_lines (d : Document) : Line.Consecutive 0 d.lines :=
  Line.consecutive_ofText _ _

/-- The lines of a document are cut from it after its line feeds. -/
theorem isCut_lines (d : Document) : Text.IsCut (d.lines.map Line.raw) :=
  (Line.cutAt_iff.1 (Line.cutAt_ofText 0 d.source)).2

/-- The text of a line of a document has no line feed. -/
theorem newline_not_mem_text {d : Document} {l : Line} (hl : l ∈ d.lines) : '\n' ∉ l.text :=
  (d.isCut_lines.of_mem (List.mem_map_of_mem hl)).newline_not_mem_stripTerminators

/-- A source that does not start with a byte-order mark is stored as it is. -/
theorem source_ofText_of_head? {source : Text} (h : source.head? ≠ some '\ufeff') (path : Path) :
    (ofText path source).source = source := by
  have hmark : Text.afterStart? ['\ufeff'] source = none := by
    cases source with
    | nil => rfl
    | cons c t => rw [Text.afterStart?, if_neg fun hc => h (by rw [hc]; rfl)]
  rw [ofText, hmark, Option.getD_none]

end Document
end Doctest
