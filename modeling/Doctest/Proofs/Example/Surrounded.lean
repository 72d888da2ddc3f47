/-
# A section among other text

What stands before a section and after it has no part in it.  Put between other texts, a source has
its section at the same lines, moved by the bytes before them:

| text | condition | because |
| --- | --- | --- |
| before | whole lines, no header with the name | the first header with the name counts |
| after | starts with a header that is not deeper | that is where the body stops |
| both | no byte-order mark at the start | it would go |

The lines of the source are then the old ones at their new places (`Transcription.shift`), so all
that is read in the section is read again (`Document.findSection_examples_surrounded`), and nothing
that stands around it reaches its examples, their numbers or their faults.
-/

import Doctest.Proofs.Example.Transcription

namespace Doctest

/-! ## Moved by some bytes -/

/-- The span moved by some bytes. -/
def Span.moved (n : Nat) (s : Span) : Span := ⟨s.start + n, s.stop + n⟩

/-- The section with its header and its body moved by some bytes. -/
def Section.moved (n : Nat) (s : Section) : Section :=
  { s with headerSpan := s.headerSpan.moved n, bodyOffset := s.bodyOffset + n }

/-- The example with its span moved by some bytes. -/
def Example.moved (n : Nat) (e : Example) : Example := { e with span := e.span.moved n }

/-- The fault with its span moved by some bytes. -/
def Fault.moved (n : Nat) (f : Fault) : Fault := { f with span := f.span.moved n }

namespace Transcription

/-- The transcription that leaves every character as it is and moves every offset. -/
def shift (n : Nat) : Transcription := ⟨fun c => [c], (· + n)⟩

@[simp] theorem onText_shift (n : Nat) (t : Text) : (shift n).onText t = t :=
  List.flatMap_singleton' t

/-- **A moved line keeps its text.** -/
theorem keeps_shift (n : Nat) (l : Line) : (shift n).Keeps l where
  text_eq := congrArg Text.stripTerminators (onText_shift n l.raw)
  stop_eq := by
    rw [Line.stop, onLine, onText_shift, Line.stop]
    exact Nat.add_right_comm ..
  text_stop_eq := Nat.add_right_comm ..

theorem onSection_shift (n : Nat) : (shift n).onSection = Section.moved n := by
  funext s
  rw [onSection, onText_shift]
  rfl

theorem onExample_shift (n : Nat) : (shift n).onExample = Example.moved n := by
  funext e
  rw [onExample, onText_shift]
  rfl

end Transcription

/-- The lines of a text that stands some bytes further on are its lines, moved. -/
theorem Line.ofText_add (offset n : Nat) (t : Text) :
    ofText (offset + n) t = (ofText offset t).map (Transcription.shift n).onLine := by
  have hplace : ∀ (rs : List Text) (offset : Nat),
      place (offset + n) rs = (place offset rs).map (Transcription.shift n).onLine := by
    intro rs
    induction rs with
    | nil => exact fun _ => rfl
    | cons r rs ih =>
      intro offset
      rw [place, place, List.map_cons, Nat.add_right_comm, ih, Transcription.onLine,
        Transcription.onText_shift]
      rfl
  exact hplace _ offset

namespace Section

/-- A moved section has the lines of the section, moved. -/
theorem lines_moved (n : Nat) (s : Section) :
    (s.moved n).lines = s.lines.map (Transcription.shift n).onLine :=
  Line.ofText_add s.bodyOffset n s.body

/-- **A moved section has the same examples**, moved, or the same first fault. -/
theorem examples_moved (n : Nat) (s : Section) :
    (s.moved n).examples =
      (s.examples.map (List.map (Example.moved n))).mapError (Fault.moved n) := by
  have hexamples := (@Transcription.blocks_examples_onSection (.shift n) s (s.moved n) rfl rfl
    (s.lines_moved n) fun l _ => Transcription.keeps_shift n l).2
  rwa [Transcription.onExample_shift] at hexamples

/-- What follows a line that ends the section does not belong to it. -/
theorem opened_append {ms : List Line} {depth : Nat}
    (hms : ∀ l ∈ ms.head?, continues depth l = false) (fileId : Nat) {h : Header}
    (hdepth : h.depth = depth) (l : Line) (ls : List Line) :
    opened fileId h l (ls ++ ms) = opened fileId h l ls := by
  have htake : (ls ++ ms).takeWhile (continues depth) = ls.takeWhile (continues depth) := by
    induction ls with
    | nil =>
      cases ms with
      | nil => rfl
      | cons m ms => exact List.takeWhile_cons_of_neg (by simp [hms m rfl])
    | cons m ls ih => rw [List.cons_append, List.takeWhile_cons, List.takeWhile_cons, ih]
  rw [opened, opened, hdepth, htake]

/-- **A section is found again among other lines**, at its new place: those before have no header
with the name, and the first of those after ends the section. -/
theorem find?_surrounded {n fileId : Nat} {name : Text} {ls before after : List Line} {s : Section}
    (hs : find? fileId name ls = some s) (hbefore : ∀ h ∈ Header.ofLines before, h.name ≠ name)
    (hafter : ∀ l ∈ after.head?, continues s.depth l = false) :
    find? fileId name (before ++ ls.map (Transcription.shift n).onLine ++ after) =
      some (s.moved n) := by
  obtain ⟨read, l, rest, h, rfl, hh, hne, hname, hread, rfl⟩ := find?_eq_some_iff.1 hs
  have hkeeps := Transcription.keeps_shift n
  have hheader : Header.ofLine? ((Transcription.shift n).onLine l) =
      some ((Transcription.shift n).onHeader h) := by
    rw [(hkeeps l).ofLine?_onLine, hh, Option.map_some]
  refine find?_eq_some_iff.2 ⟨before ++ read.map (Transcription.shift n).onLine,
    (Transcription.shift n).onLine l, rest.map (Transcription.shift n).onLine ++ after,
    (Transcription.shift n).onHeader h, by simp, hheader, hne, hname, ?_, ?_⟩
  · intro g hg
    rw [Header.ofLines_append] at hg
    rcases List.mem_append.1 hg with hg | hg
    · exact hbefore g hg
    · rw [Transcription.ofLines_map_onLine fun m _ => hkeeps m] at hg
      obtain ⟨g', hg', rfl⟩ := List.mem_map.1 hg
      exact hread g' hg'
  · have hopened := Transcription.opened_onHeader (hkeeps l) (fun m (_ : m ∈ rest) => hkeeps m)
      fileId h
    rw [opened_append hafter fileId (h := (Transcription.shift n).onHeader h) rfl, hopened,
      Transcription.onSection_shift]

end Section

namespace Document

/-- **Edits elsewhere do not change a section.**  Take a source with the section, and put whole
lines without a header of its name before it, and after it nothing, or lines the first of which is a
header that is not deeper; neither source starts with a byte-order mark.  The section is found
again, with the same name, depth and body, and has the same examples, or the same first fault with
the same message and notes.  All spans move by the bytes put before.  Whatever else stands there, as
broken examples or a second header of the name, makes no difference. -/
theorem findSection_examples_surrounded (path : Path) (fileId : Nat) (before source after : Text)
    {name : Text} {s : Section}
    (hs : ((ofText path source).withFileId fileId).findSection name = .ok s)
    (hmark : source.head? ≠ some '\ufeff') (hmark' : (before ++ source).head? ≠ some '\ufeff')
    (hbefore : before.EndsLine)
    (hnames : ∀ h ∈ Header.ofLines (Line.ofText 0 before), h.name ≠ name)
    (hafter : after = [] ∨ source.EndsLine ∧ ∃ l ∈ (Line.ofText 0 after).head?,
      ∃ h, Header.ofLine? l = some h ∧ h.depth ≤ s.depth) :
    let d := (ofText path source).withFileId fileId
    let d' := (ofText path (before ++ source ++ after)).withFileId fileId
    let n := Text.bytes before
    d'.findSection name = .ok (s.moved n) ∧
      d'.examples name =
        ((d.examples name).map (List.map (Example.moved n))).mapError (Fault.moved n) := by
  intro d d' n
  have hlines : d.lines = Line.ofText 0 source :=
    congrArg (Line.ofText 0) (source_ofText_of_head? hmark path)
  have hfind : Section.find? fileId name d.lines = some s := findSection_eq_ok_iff.1 hs
  have hne : before ++ source ≠ [] := by
    intro hnil
    rw [hlines, (List.append_eq_nil_iff.1 hnil).2] at hfind
    cases hfind
  have hhead : (before ++ source ++ after).head? ≠ some '\ufeff' := by
    obtain ⟨c, t, hcons⟩ := List.exists_cons_of_ne_nil hne
    rw [hcons] at hmark' ⊢
    exact hmark'
  have hlines' : d'.lines = Line.ofText 0 before ++
      d.lines.map (Transcription.shift n).onLine ++ Line.ofText (n + Text.bytes source) after := by
    have hd' : d'.lines = Line.ofText 0 (before ++ (source ++ after)) := by
      rw [← List.append_assoc]
      exact congrArg (Line.ofText 0) (source_ofText_of_head? hhead path)
    have hsource : Line.ofText n (source ++ after) =
        Line.ofText n source ++ Line.ofText (n + Text.bytes source) after := by
      rcases hafter with rfl | ⟨hends, -⟩
      · rw [List.append_nil]
        exact (List.append_nil _).symm
      · exact Line.ofText_append hends n after
    rw [hd', Line.ofText_append hbefore, Nat.zero_add, hsource, hlines, ← Line.ofText_add,
      Nat.zero_add, List.append_assoc]
  have hstop : ∀ l ∈ (Line.ofText (n + Text.bytes source) after).head?,
      Section.continues s.depth l = false := by
    rcases hafter with rfl | ⟨-, l, hl, h, hh, hdepth⟩
    · simp [Line.ofText, Text.rawLines, Line.place]
    · intro m hm
      -- Whether a line is a header does not depend on its place.
      rw [← Nat.zero_add (n + _), Line.ofText_add, List.head?_map, Option.mem_def.1 hl] at hm
      obtain rfl := Option.some.inj hm
      rw [(Transcription.keeps_shift _ l).continues_onLine, Section.continues_of_some hh]
      simpa using hdepth
  have hfound : d'.findSection name = .ok (s.moved n) := by
    rw [findSection_eq_ok_iff, hlines']
    exact Section.find?_surrounded hfind hnames hstop
  refine ⟨hfound, ?_⟩
  rw [examples, examples, hfound, hs]
  exact s.examples_moved n

/-- The section stands after one with a block that has no code, and before a second one of its name
that has such a block too. -/
theorem findSection_examples_surrounded_broken :
    let source := "é\n== S\n  ß # => 1\n".toList
    let d := ofText (.ofText "notes".toList) source
    let d' := ofText (.ofText "notes".toList)
      ("= R\n  #### output:\n".toList ++ source ++ "= S\n  #### output:\n".toList)
    let s : Section := ⟨"S".toList, 2, ⟨3, 7⟩, "  ß # => 1\n".toList, 8, 0⟩
    let e : Example := ⟨0, "  ß # => 1\n".toList, ['1'], .inline, ⟨8, 20⟩⟩
    d.findSection "S".toList = .ok s ∧ d.examples "S".toList = .ok [e] ∧
      d'.findSection "S".toList = .ok { s with headerSpan := ⟨22, 26⟩, bodyOffset := 27 } ∧
      d'.examples "S".toList = .ok [{ e with span := ⟨27, 39⟩ }] := by
  intro source d d' s e
  have hs : d.findSection "S".toList = .ok s := by decide +kernel
  have hes : d.examples "S".toList = .ok [e] := by decide +kernel
  have hafter : (Line.ofText 0 "= S\n  #### output:\n".toList).head? =
      some ⟨0, "= S\n".toList⟩ := by
    decide +kernel
  have hheader : Header.ofLine? ⟨0, "= S\n".toList⟩ = some ⟨1, "S".toList, ⟨0, 3⟩⟩ := by
    decide +kernel
  have hboth := findSection_examples_surrounded (.ofText "notes".toList) 0
    "= R\n  #### output:\n".toList source "= S\n  #### output:\n".toList (s := s) hs
    (by decide +kernel) (by decide +kernel) (by decide +kernel) (by decide +kernel)
    (.inr ⟨by decide +kernel, _, hafter, _, hheader, by decide⟩)
  have hread : (ofText (.ofText "notes".toList) source).withFileId 0 = d := rfl
  simp only [hread, hes] at hboth
  exact ⟨hs, hes, hboth⟩

end Document
end Doctest
