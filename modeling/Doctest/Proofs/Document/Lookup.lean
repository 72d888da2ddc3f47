/-
# Looking up a section

Looking a name up agrees with the list of the headers of the document.  Of the headers with the name
the first one counts, and the body of its section is cut by headers alone: it starts past the
header's line and stops where the next header starts that is not deeper, or at the end of the
document (`findSection_agrees_headers`).
-/

import Doctest.Document.Section
import Doctest.Proofs.Document.Header
import Doctest.Proofs.Document.Lines

namespace Doctest

namespace Header

/-- The headers among the lines. -/
def ofLines (ls : List Line) : List Header := ls.filterMap ofLine?

/-- Where the section of the header `h` stops in a text of `size` bytes, when `after` are the
headers after `h`: at the first of them that is not deeper, named or not. -/
def sectionStop (h : Header) (after : List Header) (size : Nat) : Nat :=
  match after.find? (·.depth ≤ h.depth) with
  | some g => g.span.start
  | none => size

theorem ofLines_append (ls ms : List Line) : ofLines (ls ++ ms) = ofLines ls ++ ofLines ms :=
  List.filterMap_append

theorem ofLines_cons_of_some {l : Line} {h : Header} (hh : ofLine? l = some h) (ls : List Line) :
    ofLines (l :: ls) = h :: ofLines ls :=
  List.filterMap_cons_some hh

theorem ofLines_cons_of_none {l : Line} (hl : ofLine? l = none) (ls : List Line) :
    ofLines (l :: ls) = ofLines ls :=
  List.filterMap_cons_none hl

end Header

namespace Section

/-- A line of ordinary text belongs to every section. -/
theorem continues_of_none {l : Line} (hl : Header.ofLine? l = none) (depth : Nat) :
    continues depth l = true := by
  rw [continues, hl]

/-- A header belongs to the sections of shallower headers. -/
theorem continues_of_some {l : Line} {h : Header} (hh : Header.ofLine? l = some h) (depth : Nat) :
    continues depth l = decide (depth < h.depth) := by
  rw [continues, hh]

/-- **A name is found at its first header.**  The lines before have headers of other names only. -/
theorem find?_eq_some_iff {fileId : Nat} {name : Text} {ls : List Line} {s : Section} :
    find? fileId name ls = some s ↔
      ∃ before l after h, ls = before ++ l :: after ∧ Header.ofLine? l = some h ∧ h.name ≠ [] ∧
        h.name = name ∧ (∀ g ∈ Header.ofLines before, g.name ≠ name) ∧
        s = opened fileId h l after := by
  induction ls with
  | nil => simp [find?]
  | cons m ls ih =>
    constructor
    · intro hs
      rw [find?] at hs
      split at hs
      · rename_i g hg
        split at hs
        · rename_i hname
          exact ⟨[], m, ls, g, rfl, hg, hname.1, hname.2, by simp [Header.ofLines],
            (Option.some.inj hs).symm⟩
        · rename_i hname
          obtain ⟨before, l, after, h, rfl, hh, hne, hn, hbefore, rfl⟩ := ih.1 hs
          refine ⟨m :: before, l, after, h, rfl, hh, hne, hn, ?_, rfl⟩
          rw [Header.ofLines_cons_of_some hg]
          refine List.forall_mem_cons.2 ⟨fun hgn => ?_, hbefore⟩
          exact hname ⟨fun he => hne (by rw [hn, ← hgn, he]), hgn⟩
      · rename_i hg
        obtain ⟨before, l, after, h, rfl, hh, hne, hn, hbefore, rfl⟩ := ih.1 hs
        refine ⟨m :: before, l, after, h, rfl, hh, hne, hn, ?_, rfl⟩
        rwa [Header.ofLines_cons_of_none hg]
    · rintro ⟨before, l, after, h, hls, hh, hne, hn, hbefore, rfl⟩
      cases before with
      | nil =>
        obtain ⟨rfl, rfl⟩ := List.cons.inj hls
        rw [find?, hh]
        simp only
        rw [if_pos ⟨hne, hn⟩]
      | cons b before =>
        obtain ⟨rfl, rfl⟩ := List.cons.inj hls
        cases hg : Header.ofLine? m with
        | none =>
          rw [Header.ofLines_cons_of_none hg] at hbefore
          rw [find?, hg]
          exact ih.2 ⟨before, l, after, h, rfl, hh, hne, hn, hbefore, rfl⟩
        | some g =>
          rw [Header.ofLines_cons_of_some hg, List.forall_mem_cons] at hbefore
          rw [find?, hg]
          simp only
          rw [if_neg fun hgn => hbefore.1 hgn.2]
          exact ih.2 ⟨before, l, after, h, rfl, hh, hne, hn, hbefore.2, rfl⟩

/-- A name is not found when it is empty or no header has it. -/
theorem find?_eq_none_iff {fileId : Nat} {name : Text} {ls : List Line} :
    find? fileId name ls = none ↔ name = [] ∨ ∀ h ∈ Header.ofLines ls, h.name ≠ name := by
  induction ls with
  | nil => simp [find?, Header.ofLines]
  | cons l ls ih =>
    rw [find?]
    cases hl : Header.ofLine? l with
    | none => rw [Header.ofLines_cons_of_none hl, ← ih]
    | some h =>
      rw [Header.ofLines_cons_of_some hl, List.forall_mem_cons]
      simp only
      split
      · rename_i hname
        obtain ⟨hne, rfl⟩ := hname
        simp [hne]
      · rename_i hname
        rw [ih]
        by_cases hn : h.name = name
        · have hempty : name = [] := by simpa [hn] using hname
          simp [hempty]
        · simp [hn]

/-- **The lines of a body stop at a header that is not deeper**, or where the lines end. -/
theorem stop_takeWhile_continues {offset : Nat} {ls : List Line} (hc : Line.Consecutive offset ls)
    (h : Header) :
    offset + Text.bytes (Line.join (ls.takeWhile (continues h.depth))) =
      h.sectionStop (Header.ofLines ls) (offset + Text.bytes (Line.join ls)) := by
  induction ls generalizing offset with
  | nil => rfl
  | cons l ls ih =>
    have hstop := Line.stop_eq hc.1
    cases hl : Header.ofLine? l with
    | none =>
      rw [List.takeWhile_cons_of_pos (continues_of_none hl _), Header.ofLines_cons_of_none hl,
        Line.join_cons, Text.bytes_append, ← Nat.add_assoc, ← hstop, ih hc.2, Line.join_cons,
        Text.bytes_append, hstop, Nat.add_assoc]
    | some g =>
      rw [Header.ofLines_cons_of_some hl]
      by_cases hg : g.depth ≤ h.depth
      · have hcont : ¬ continues h.depth l = true := by
          rw [continues_of_some hl]
          simpa using hg
        rw [List.takeWhile_cons_of_neg hcont, Header.sectionStop,
          List.find?_cons_of_pos (by simpa using hg)]
        simp only [Header.start_of_ofLine? hl, hc.1, Line.join_nil, Text.bytes_nil, Nat.add_zero]
      · have hcont : continues h.depth l = true := by
          rw [continues_of_some hl]
          simpa using hg
        rw [List.takeWhile_cons_of_pos hcont, Line.join_cons, Text.bytes_append, ← Nat.add_assoc,
          ← hstop, ih hc.2, Header.sectionStop, Header.sectionStop,
          List.find?_cons_of_neg (by simpa using hg), Line.join_cons, Text.bytes_append, hstop,
          Nat.add_assoc]

/-- **The body is the part of the text between two offsets**, the end of the header's line and the
place where the section stops. -/
theorem slice?_opened {offset : Nat} {before after : List Line} {l : Line}
    (hc : Line.Consecutive offset (before ++ l :: after)) (fileId : Nat) (h : Header) :
    Text.slice? (Line.join (before ++ l :: after)) (l.stop - offset)
        (h.sectionStop (Header.ofLines after)
          (offset + Text.bytes (Line.join (before ++ l :: after))) - offset) =
      some (opened fileId h l after).body := by
  obtain ⟨-, hl, hafter⟩ := Line.consecutive_append.1 hc
  have hstop := Line.stop_eq hl
  have hend : offset + Text.bytes (Line.join (before ++ l :: after)) =
      l.stop + Text.bytes (Line.join after) := by
    rw [Line.join_append, Line.join_cons, Text.bytes_append, Text.bytes_append]
    omega
  have hsplit : Line.join after = (opened fileId h l after).body ++
      Line.join (after.dropWhile (continues h.depth)) := by
    rw [opened, ← Line.join_append, List.takeWhile_append_dropWhile]
  refine Text.slice?_eq_some_iff.2 ⟨Line.join before ++ l.raw,
    Line.join (after.dropWhile (continues h.depth)), ?_, ?_, ?_⟩
  · rw [Line.join_append, Line.join_cons, hsplit]
    simp only [List.append_assoc]
  · rw [Text.bytes_append]
    omega
  · have hbody := stop_takeWhile_continues hafter h
    simp only [hend, ← hbody, Text.bytes_append, opened]
    omega

end Section

namespace Document

/-- The headers of a document are those of its lines. -/
theorem ofLines_lines (d : Document) : Header.ofLines d.lines = d.headers := rfl

/-- A name is looked up in the lines of the document. -/
theorem findSection_eq_ok_iff {d : Document} {name : Text} {s : Section} :
    d.findSection name = .ok s ↔ Section.find? d.fileId name d.lines = some s := by
  unfold findSection
  cases Section.find? d.fileId name d.lines <;> simp

/-- There is one fault that a lookup can have. -/
theorem findSection_eq_error_iff {d : Document} {name : Text} {f : Fault} :
    d.findSection name = .error f ↔
      Section.find? d.fileId name d.lines = none ∧ f = d.sectionNotFound name := by
  unfold findSection
  cases Section.find? d.fileId name d.lines <;> simp [eq_comm]

/-- The names that a fault lists are those of the headers that have one, in their order. -/
theorem sectionNames_eq_nil_iff {d : Document} :
    d.sectionNames = [] ↔ ∀ h ∈ d.headers, h.name = [] := by
  simp [sectionNames]

/-- **Lookup agrees with the list of headers.**  A name is found exactly when it is not empty and a
header has it.  Then the section is that of the first header with the name; its body starts past
the header's line and stops where the first later header of its depth or less starts, or at the end
of the source.  Otherwise the fault points at the start of the document and its one note lists the
names that could have been looked up. -/
theorem findSection_agrees_headers (d : Document) (name : Text) :
    ((∃ s, d.findSection name = .ok s) ↔ name ≠ [] ∧ ∃ h ∈ d.headers, h.name = name) ∧
      (∀ s, d.findSection name = .ok s → ∃ before h after, ∃ l ∈ d.lines,
        d.headers = before ++ h :: after ∧ h.name = name ∧ (∀ g ∈ before, g.name ≠ name) ∧
        s.name = h.name ∧ s.depth = h.depth ∧ s.headerSpan = h.span ∧ s.fileId = d.fileId ∧
        Header.ofLine? l = some h ∧ s.bodyOffset = l.stop ∧
        d.slice? ⟨l.stop, h.sectionStop after (Text.bytes d.source)⟩ = some s.body) ∧
      ∀ f, d.findSection name = .error f →
        f.kind = .sectionNotFound ∧ f.span = ⟨0, 0⟩ ∧ f.fileId = d.fileId ∧
        ((∀ h ∈ d.headers, h.name = []) →
          f.notes = ["the document has no section headers".toList]) ∧
        ((∃ h ∈ d.headers, h.name ≠ []) →
          f.notes = ["available sections: ".toList ++ Text.join ", ".toList
            (((d.headers.map Header.name).filter (· ≠ [])).map fun n =>
              "`".toList ++ n ++ "'".toList)]) := by
  refine ⟨?_, fun s hs => ?_, fun f hf => ?_⟩
  · simp only [findSection_eq_ok_iff, ← Option.isSome_iff_exists, ← Option.ne_none_iff_isSome,
      ne_eq, Section.find?_eq_none_iff, ofLines_lines, not_or]
    simp
  · obtain ⟨before, l, after, h, hls, hh, -, hn, hbefore, rfl⟩ :=
      Section.find?_eq_some_iff.1 (findSection_eq_ok_iff.1 hs)
    have hc := d.consecutive_lines
    rw [hls] at hc
    have hbody := Section.slice?_opened hc d.fileId h
    rw [← hls, join_lines, Nat.zero_add] at hbody
    refine ⟨Header.ofLines before, h, Header.ofLines after, l, ?_, ?_, hn, hbefore, rfl, rfl, rfl,
      rfl, hh, rfl, hbody⟩
    · rw [hls]
      simp
    · rw [← ofLines_lines, hls, Header.ofLines_append, Header.ofLines_cons_of_some hh]
  · obtain ⟨-, rfl⟩ := findSection_eq_error_iff.1 hf
    refine ⟨rfl, rfl, rfl, fun hnone => ?_, fun ⟨h, hh, hne⟩ => ?_⟩
    · have hnames := sectionNames_eq_nil_iff.2 hnone
      simp only [sectionNotFound, Fault.notes, FaultCause.notes, if_pos hnames]
    · have hnames : d.sectionNames ≠ [] := fun he => hne (sectionNames_eq_nil_iff.1 he h hh)
      simp only [sectionNotFound, Fault.notes, FaultCause.notes, if_neg hnames]
      rfl

end Document
end Doctest
