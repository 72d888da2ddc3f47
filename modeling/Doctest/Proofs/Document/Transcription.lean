/-
# Documents written anew

A transcription writes each character of a text as some text and says where each offset comes to
stand.  What a line is depends on its text without the terminator alone, so a transcription that
keeps the texts of the lines (`Transcription.Keeps`) keeps what is read in them:

| of the old lines | of the new lines |
| --- | --- |
| a header | the same at its new place (`ofLine?_onLine`) |
| a line of a section | a line of that section (`continues_onLine`) |
| the section of a name | the same at its new place, its body transcribed (`find?_map_onLine`) |
-/

import Doctest.Proofs.Document.Lookup

namespace Doctest

/-- A way to write a text anew: what each character becomes, and where each offset goes. -/
structure Transcription where
  char : Char → Text
  offset : Nat → Nat

namespace Transcription

variable (r : Transcription)

/-- The text written anew. -/
def onText (t : Text) : Text := t.flatMap r.char

/-- The span at its new place. -/
def onSpan (s : Span) : Span := ⟨r.offset s.start, r.offset s.stop⟩

/-- The line written anew, at its new place. -/
def onLine (l : Line) : Line := ⟨r.offset l.start, r.onText l.raw⟩

/-- The header at its new place. -/
def onHeader (h : Header) : Header := { h with span := r.onSpan h.span }

/-- The section with its body written anew, at its new place. -/
def onSection (s : Section) : Section :=
  { s with
    headerSpan := r.onSpan s.headerSpan
    body := r.onText s.body
    bodyOffset := r.offset s.bodyOffset }

@[simp] theorem onText_nil : r.onText [] = [] := rfl

@[simp] theorem onText_append (s t : Text) : r.onText (s ++ t) = r.onText s ++ r.onText t :=
  List.flatMap_append

/-- The line keeps its text, and its text and the line stop at their new places. -/
structure Keeps (l : Line) : Prop where
  text_eq : (r.onLine l).text = l.text
  stop_eq : (r.onLine l).stop = r.offset l.stop
  text_stop_eq : r.offset (l.start + Text.bytes l.text) = r.offset l.start + Text.bytes l.text

variable {r}

/-! ## Runs of lines -/

/-- Lines written anew make up the text written anew. -/
theorem join_map_onLine (ls : List Line) :
    Line.join (ls.map r.onLine) = r.onText (Line.join ls) := by
  induction ls with
  | nil => rfl
  | cons l ls ih => rw [List.map_cons, Line.join_cons, Line.join_cons, ih, onText_append]; rfl

/-- **Consecutive lines stay consecutive**, and where they stop goes to where the new ones stop. -/
theorem offset_join {offset : Nat} {ls : List Line} (hc : Line.Consecutive offset ls)
    (h : ∀ l ∈ ls, r.Keeps l) :
    r.offset (offset + Text.bytes (Line.join ls)) =
      r.offset offset + Text.bytes (r.onText (Line.join ls)) := by
  induction ls generalizing offset with
  | nil => rfl
  | cons l ls ih =>
    rw [List.forall_mem_cons] at h
    have hrest := ih hc.2 h.2
    rw [Line.stop_eq hc.1, ← Line.stop_eq hc.1, ← h.1.stop_eq] at hrest
    rw [Line.join_cons, Text.bytes_append, ← Nat.add_assoc, ← Line.stop_eq hc.1, hrest, Line.stop,
      onText_append, Text.bytes_append, ← Nat.add_assoc, ← hc.1]
    rfl

/-- What is asked of the texts of lines picks out the same lines. -/
theorem filter_map_onLine {p : Line → Bool} {ls : List Line}
    (hp : ∀ l ∈ ls, p (r.onLine l) = p l) :
    (ls.map r.onLine).filter p = (ls.filter p).map r.onLine := by
  rw [List.filter_map]
  exact congrArg _ (List.filter_congr hp)

/-- What is asked of the texts of lines stops at the same line. -/
theorem takeWhile_map_onLine {p : Line → Bool} {ls : List Line}
    (hp : ∀ l ∈ ls, p (r.onLine l) = p l) :
    (ls.map r.onLine).takeWhile p = (ls.takeWhile p).map r.onLine := by
  induction ls with
  | nil => rfl
  | cons l ls ih =>
    rw [List.forall_mem_cons] at hp
    rw [List.map_cons, List.takeWhile_cons, List.takeWhile_cons, hp.1, ih hp.2]
    split <;> rfl

/-! ## Headers -/

namespace Keeps

variable {l : Line}

/-- **A header stays a header**, at its new place. -/
theorem ofLine?_onLine (h : r.Keeps l) :
    Header.ofLine? (r.onLine l) = (Header.ofLine? l).map r.onHeader := by
  have hspan : (⟨r.offset l.start, r.offset l.start + Text.bytes l.text⟩ : Span) =
      r.onSpan ⟨l.start, l.start + Text.bytes l.text⟩ := by
    rw [← h.text_stop_eq]
    rfl
  rw [Header.ofLine?, Header.ofLine?, h.text_eq]
  simp only [Header.ofText?]
  split
  · rfl
  · rw [Option.map_map]
    congr 1
    funext name
    exact congrArg _ hspan

theorem continues_onLine (h : r.Keeps l) (depth : Nat) :
    Section.continues depth (r.onLine l) = Section.continues depth l := by
  rw [Section.continues, Section.continues, h.ofLine?_onLine]
  cases Header.ofLine? l <;> rfl

end Keeps

/-- **The headers are the same ones**, at their new places. -/
theorem ofLines_map_onLine {ls : List Line} (h : ∀ l ∈ ls, r.Keeps l) :
    Header.ofLines (ls.map r.onLine) = (Header.ofLines ls).map r.onHeader := by
  induction ls with
  | nil => rfl
  | cons l ls ih =>
    rw [List.forall_mem_cons] at h
    have hl := h.1.ofLine?_onLine
    rw [List.map_cons]
    cases hh : Header.ofLine? l with
    | none =>
      rw [hh] at hl
      rw [Header.ofLines_cons_of_none hl, Header.ofLines_cons_of_none hh, ih h.2]
    | some header =>
      rw [hh] at hl
      rw [Header.ofLines_cons_of_some hl, Header.ofLines_cons_of_some hh, ih h.2, List.map_cons]

/-! ## Sections -/

/-- The section that a header opens is the old one, written anew. -/
theorem opened_onHeader {l : Line} {rest : List Line} (hl : r.Keeps l) (h : ∀ m ∈ rest, r.Keeps m)
    (fileId : Nat) (header : Header) :
    Section.opened fileId (r.onHeader header) (r.onLine l) (rest.map r.onLine) =
      r.onSection (Section.opened fileId header l rest) := by
  have hbody : Line.join ((rest.map r.onLine).takeWhile (Section.continues header.depth)) =
      r.onText (Line.join (rest.takeWhile (Section.continues header.depth))) := by
    rw [takeWhile_map_onLine fun m hm => (h m hm).continues_onLine header.depth, join_map_onLine]
  simp only [Section.opened, onSection, onHeader, hbody, hl.stop_eq]

/-- **A name is found at the same header.** -/
theorem find?_map_onLine {ls : List Line} (h : ∀ l ∈ ls, r.Keeps l) (fileId : Nat) (name : Text) :
    Section.find? fileId name (ls.map r.onLine) =
      (Section.find? fileId name ls).map r.onSection := by
  induction ls with
  | nil => rfl
  | cons l ls ih =>
    rw [List.forall_mem_cons] at h
    rw [List.map_cons, Section.find?, Section.find?, h.1.ofLine?_onLine]
    cases hl : Header.ofLine? l with
    | none => exact ih h.2
    | some header =>
      have hname : (r.onHeader header).name = header.name := rfl
      simp only [Option.map_some, opened_onHeader h.1 h.2, hname]
      split
      · rfl
      · exact ih h.2

end Transcription
end Doctest
