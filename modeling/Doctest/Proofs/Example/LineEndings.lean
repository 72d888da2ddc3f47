/-
# Line endings

A carriage return put before each line feed of a source makes every line longer by one byte, and no
text of a line: terminators are no part of it, and a line that ended in `\r\n` already just ends in
one more carriage return.  So such a source is the old one written anew (`Transcription.crlf`), with
the offsets

    new offset = old offset + number of line feeds before it

and it has the same headers and the same examples with their code written anew, or the same first
fault (`Document.headers_examples_crlf`), whatever terminators it had before.
-/

import Doctest.Proofs.Example.Transcription
import Doctest.Proofs.Text.Split

namespace Doctest

namespace Text

/-- The text with a carriage return before each line feed. -/
def crlf (t : Text) : Text := replaceChar '\n' ['\r', '\n'] t

/-- The number of line feeds before a byte offset. -/
def feedsBefore : Text → Nat → Nat
  | [], _ => 0
  | _ :: _, 0 => 0
  | c :: t, n + 1 => (if c = '\n' then 1 else 0) + feedsBefore t (n + 1 - c.utf8Size)

/-- **Before the offset where the first of two parts stops are its line feeds.** -/
theorem feedsBefore_bytes (a b : Text) : feedsBefore (a ++ b) (bytes a) = a.count '\n' := by
  induction a with
  | nil => cases b <;> rfl
  | cons c a ih =>
    obtain ⟨n, hn⟩ : ∃ n, bytes (c :: a) = n + 1 :=
      ⟨bytes (c :: a) - 1, by have := bytes_pos_iff.2 (List.cons_ne_nil c a); omega⟩
    have hrest : n + 1 - c.utf8Size = bytes a := by
      rw [← hn, bytes_cons]
      omega
    rw [hn, List.cons_append, feedsBefore, hrest, ih, List.count_cons, Nat.add_comm]
    simp

theorem crlf_cons (c : Char) (t : Text) :
    crlf (c :: t) = (if c = '\n' then ['\r', '\n'] else [c]) ++ crlf t := rfl

@[simp] theorem crlf_append (s t : Text) : crlf (s ++ t) = crlf s ++ crlf t :=
  replaceChar_append '\n' ['\r', '\n'] s t

/-- A text without a line feed stays as it is. -/
theorem crlf_of_not_mem {t : Text} (h : '\n' ∉ t) : crlf t = t := replaceChar_of_not_mem h _

/-- Each line feed costs one more byte. -/
theorem bytes_crlf (t : Text) : bytes (crlf t) = bytes t + t.count '\n' := by
  induction t with
  | nil => rfl
  | cons c t ih =>
    rw [crlf_cons, bytes_append, ih, bytes_cons, List.count_cons]
    by_cases hc : c = '\n'
    · subst hc
      have hreturn : bytes ['\r', '\n'] = Char.utf8Size '\n' + 1 := rfl
      simp only [if_pos, hreturn, beq_self_eq_true]
      omega
    · simp only [if_neg hc, bytes_cons, bytes_nil, beq_iff_eq]
      omega

theorem crlf_line {l : Text} (h : '\n' ∉ l) : crlf (l ++ ['\n']) = (l ++ ['\r']) ++ ['\n'] := by
  rw [crlf_append, crlf_of_not_mem h, List.append_assoc]
  rfl

/-- The pieces of a text stay such pieces. -/
theorem IsCut.map_crlf {ls : List Text} (h : IsCut ls) : IsCut (ls.map crlf) := by
  induction h with
  | nil => exact .nil
  | @last l hne hl =>
    rw [List.map_singleton, crlf_of_not_mem hl]
    exact .last hne hl
  | @line l ls hl _ ih =>
    rw [List.map_cons, crlf_line hl]
    refine .line (fun hmem => ?_) ih
    rcases List.mem_append.1 hmem with hmem | hmem
    · exact hl hmem
    · simp at hmem

/-- **The text is cut at the same places.** -/
theorem rawLines_crlf (t : Text) : rawLines (crlf t) = (rawLines t).map crlf := by
  have hflatten : ∀ ls : List Text, (ls.map crlf).flatten = crlf ls.flatten := by
    intro ls
    induction ls with
    | nil => rfl
    | cons l ls ih => simp [ih]
  have hcut := (isCut_rawLines t).map_crlf.rawLines_flatten
  rwa [hflatten, flatten_rawLines] at hcut

/-- **A line keeps its text.** -/
theorem IsCut.stripTerminators_crlf {l : Text} (h : IsCut [l]) :
    stripTerminators (crlf l) = stripTerminators l := by
  cases h with
  | last _ hl => rw [crlf_of_not_mem hl]
  | @line x _ hx _ =>
    have hreturn : isTerminator '\r' = true := rfl
    rw [crlf_line hx, stripTerminators_newline, stripTerminators_newline, stripTerminators,
      trimEndWhile_concat, if_pos hreturn]
    rfl

end Text

/-- A carriage return goes before each line feed, and each offset of the source moves on by the
number of line feeds before it. -/
def Transcription.crlf (source : Text) : Transcription where
  char c := if c = '\n' then ['\r', '\n'] else [c]
  offset n := n + Text.feedsBefore source n

namespace Transcription

/-- The place where the first of two parts of the source stops. -/
theorem offset_crlf {source a b : Text} (h : source = a ++ b) :
    (crlf source).offset (Text.bytes a) = Text.bytes a.crlf := by
  rw [Text.bytes_crlf, h]
  exact congrArg (Text.bytes a + ·) (Text.feedsBefore_bytes a b)

/-- **The lines of the new source are those of the old one, written anew.** -/
theorem place_map_crlf {source a : Text} {rs : List Text} (h : source = a ++ rs.flatten) :
    Line.place (Text.bytes a.crlf) (rs.map Text.crlf) =
      (Line.place (Text.bytes a) rs).map (crlf source).onLine := by
  induction rs generalizing a with
  | nil => rfl
  | cons l rs ih =>
    have hrest := ih (a := a ++ l) (by simp [h])
    rw [Text.crlf_append, Text.bytes_append, Text.bytes_append] at hrest
    rw [List.map_cons, Line.place, Line.place, List.map_cons, hrest, onLine, offset_crlf h]
    rfl

/-- Every line of a document keeps its text. -/
theorem keeps_crlf {d : Document} {l : Line} (hl : l ∈ d.lines) : (crlf d.source).Keeps l := by
  obtain ⟨before, after, hls⟩ := List.append_of_mem hl
  have hstart := Document.start_of_lines hls
  have hsource : d.source = Line.join before ++ (l.raw ++ Line.join after) := by
    rw [← d.join_lines, hls, Line.join_append, Line.join_cons]
  obtain ⟨e, hraw⟩ := l.text_prefix
  have hcut : Text.IsCut [l.raw] :=
    (Line.cutAt_iff.1 d.cutAt_lines).2.of_mem (List.mem_map_of_mem hl)
  have hfeed : '\n' ∉ l.text := hcut.newline_not_mem_stripTerminators
  have hoffset : (crlf d.source).offset l.start = Text.bytes (Line.join before).crlf := by
    rw [hstart, offset_crlf hsource]
  have hstop : l.stop = Text.bytes (Line.join before ++ l.raw) := by
    rw [Line.stop, hstart, Text.bytes_append]
  have htextStop : l.start + Text.bytes l.text = Text.bytes (Line.join before ++ l.text) := by
    rw [hstart, Text.bytes_append]
  refine ⟨hcut.stripTerminators_crlf, ?_, ?_⟩
  · rw [hstop, offset_crlf (b := Line.join after) (by rw [hsource, List.append_assoc]),
      Text.crlf_append, Text.bytes_append, ← hoffset]
    rfl
  · rw [htextStop, offset_crlf (b := e ++ Line.join after) (by rw [hsource, ← hraw]; simp),
      Text.crlf_append, Text.bytes_append, Text.crlf_of_not_mem hfeed, ← hoffset]

end Transcription

namespace Document

/-- The byte-order mark that may start a source is the same one in the new source. -/
theorem source_ofText_crlf (path : Path) (source : Text) :
    (ofText path source.crlf).source = (ofText path source).source.crlf := by
  cases source with
  | nil => rfl
  | cons c t =>
    by_cases hmark : c = '\ufeff'
    · subst hmark
      rfl
    · have hold : Text.afterStart? ['\ufeff'] (c :: t) = none := by
        rw [Text.afterStart?, if_neg (Ne.symm hmark)]
      have hnew : Text.afterStart? ['\ufeff'] (Text.crlf (c :: t)) = none := by
        rw [Text.crlf_cons]
        split
        · rfl
        · rw [List.singleton_append, Text.afterStart?, if_neg (Ne.symm hmark)]
      simp only [ofText, hold, hnew, Option.getD_none]

/-- **Carriage returns before the line feeds change nothing that is read**, whatever terminators the
source has already.  The headers have the same depths and names.  The examples of a section are
read if they were before, and then they are as many and have the same indices, forms and claimed
outputs, and code with a carriage return before each line feed; otherwise the first fault has the
same kind, message and notes.  Every span moves with the line feeds before its ends. -/
theorem headers_examples_crlf (path : Path) (source : Text) (fileId : Nat) (name : Text) :
    let d := (ofText path source).withFileId fileId
    let d' := (ofText path source.crlf).withFileId fileId
    let r := Transcription.crlf d.source
    d'.headers = d.headers.map r.onHeader ∧
      d'.examples name = ((d.examples name).map (List.map r.onExample)).mapError r.onFault := by
  intro d d' r
  have hlines : d'.lines = d.lines.map r.onLine := by
    have hsource : d'.source = d.source.crlf := source_ofText_crlf path source
    rw [lines, lines, hsource, Line.ofText, Line.ofText, Text.rawLines_crlf]
    exact Transcription.place_map_crlf (a := []) (by simp)
  have hpath : d'.path = d.path := rfl
  have hzero : r.offset 0 = 0 := Transcription.offset_crlf (a := []) rfl
  exact headers_examples_onLines hpath rfl hlines hzero
    (fun l hl => Transcription.keeps_crlf hl) name

end Document
end Doctest
