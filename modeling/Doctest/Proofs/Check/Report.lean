/-
# Reading a report

The text of a report is put together line by line (`Report.message_eq_join`):

| line | spaces before it |
| --- | ---: |
| the summary | 0 |
| the heading of a failure: its number and the first line of its message | 2 |
| each further line of its message | 4, and its own |

Messages are cut into lines before they are indented, so whatever line of a message is not in a
heading gets four spaces.  A reader that looks at nothing but the indentation therefore finds the
failures, and reads the number of each and the lines of its message back (`Report.message_read`),
even where a message imitates a heading.
-/

import Doctest.Check.Report
import Doctest.Proofs.Text.Split

namespace Doctest

/-- Number of spaces at the start of a line. -/
def Text.indentation (l : Text) : Nat := (l.takeWhile (· = ' ')).length

namespace Report

/-- What a report tells of a failure: its number, the first line of its message and the others. -/
structure Told where
  index : Nat
  first : Text
  further : List Text
deriving DecidableEq, Repr

namespace Told

variable (t : Told)

/-- The first line of a failure in a report. -/
def heading : Text := "  example ".toList ++ Text.ofNat t.index ++ ": ".toList ++ t.first

/-- The lines of a failure in a report. -/
def entry : List Text := t.heading :: t.further.map ("    ".toList ++ ·)

/-- None of the lines of the message holds a line feed. -/
def IsCut : Prop := '\n' ∉ t.first ∧ ∀ l ∈ t.further, '\n' ∉ l

variable {t}

theorem newline_not_mem_label (n : Nat) :
    '\n' ∉ "  example ".toList ++ Text.ofNat n ++ ": ".toList := by
  have hlabel : '\n' ∉ "  example ".toList ∧ '\n' ∉ ": ".toList := by decide
  exact List.not_mem_append (List.not_mem_append hlabel.1 (Text.newline_not_mem_ofNat n)) hlabel.2

/-- No line of a failure holds a line feed. -/
theorem IsCut.entry (h : t.IsCut) : ∀ l ∈ t.entry, '\n' ∉ l := by
  have hspaces : '\n' ∉ "    ".toList := by decide
  intro l hl
  rcases List.mem_cons.1 hl with rfl | hl
  · exact List.not_mem_append (newline_not_mem_label t.index) h.1
  · obtain ⟨m, hm, rfl⟩ := List.mem_map.1 hl
    exact List.not_mem_append hspaces (h.2 m hm)

theorem indentation_heading (t : Told) : Text.indentation t.heading = 2 := rfl

/-- A line with four spaces before it is no heading. -/
theorem indentation_further (l : Text) : Text.indentation ("    ".toList ++ l) ≠ 2 := by
  have hspaces : Text.indentation ("    ".toList ++ l) = Text.indentation l + 4 := rfl
  omega

/-- The headings are the lines that two spaces and no more stand before. -/
theorem filter_entry (ts : List Told) :
    (ts.flatMap entry).filter (Text.indentation · = 2) = ts.map heading := by
  induction ts with
  | nil => rfl
  | cons t ts ih =>
    have hfurther : (t.further.map ("    ".toList ++ ·)).filter (Text.indentation · = 2) = [] := by
      rw [List.filter_eq_nil_iff]
      intro l hl
      obtain ⟨m, -, rfl⟩ := List.mem_map.1 hl
      simpa using indentation_further m
    have hentry : t.entry.filter (Text.indentation · = 2) = [t.heading] := by
      rw [Told.entry, List.filter_cons, hfurther, if_pos (decide_eq_true t.indentation_heading)]
    rw [List.flatMap_cons, List.filter_append, hentry, ih]
    rfl

end Told

/-! ## Reading it back -/

/-- What a heading tells together with the further lines of the message. -/
def Told.ofHeading (l : Text) (further : List Text) : Told :=
  let label := l.drop "  example ".toList.length
  ⟨Text.leadingNumber label, (label.dropWhile Char.isDigit).drop ": ".toList.length, further⟩

/-- Reads lines of a report: the further lines before the first heading, without four characters of
each, and what the headings and the lines after them tell. -/
def readLines : List Text → List Text × List Told
  | [] => ([], [])
  | l :: ls =>
    if Text.indentation l = 2 then ([], Told.ofHeading l (readLines ls).1 :: (readLines ls).2)
    else (l.drop "    ".toList.length :: (readLines ls).1, (readLines ls).2)

/-- Reads the text of a report. -/
def read (t : Text) : List Told := (readLines (Text.splitOn '\n' t)).2

/-- **A heading tells the number and the first line**, whatever stands in that line. -/
theorem ofHeading_heading (t : Told) : Told.ofHeading t.heading t.further = t := by
  have hlabel : t.heading.drop "  example ".toList.length =
      Text.ofNat t.index ++ (": ".toList ++ t.first) := by
    unfold Told.heading
    generalize "  example ".toList = label
    rw [List.append_assoc, List.append_assoc, List.drop_left]
  have hnumber : Text.leadingNumber (Text.ofNat t.index ++ (": ".toList ++ t.first)) = t.index :=
    Text.leadingNumber_ofNat_append t.index rfl
  have hrest : (Text.ofNat t.index ++ (": ".toList ++ t.first)).dropWhile Char.isDigit =
      ": ".toList ++ t.first := Text.dropWhile_ofNat_append t.index _
  unfold Told.ofHeading
  simp only [hlabel, hnumber, hrest]
  rfl

/-- The lines of a message are read up to the next heading. -/
theorem readLines_further (further ls : List Text) :
    readLines (further.map ("    ".toList ++ ·) ++ ls) =
      (further ++ (readLines ls).1, (readLines ls).2) := by
  induction further with
  | nil => rfl
  | cons l further ih =>
    rw [List.map_cons, List.cons_append, readLines, if_neg (Told.indentation_further l), ih]
    rfl

/-- **The failures are read back in their order.**  The induction goes from the last one to the
first, as a heading ends the further lines of the failure before it. -/
theorem readLines_entries (ts : List Told) : readLines (ts.flatMap Told.entry) = ([], ts) := by
  induction ts with
  | nil => rfl
  | cons t ts ih =>
    rw [List.flatMap_cons, Told.entry, List.cons_append, readLines, if_pos t.indentation_heading,
      readLines_further, ih, List.append_nil, ofHeading_heading]

end Report

/-! ## The text of a failure -/

namespace ExampleFailure

open Report (Told)

/-- What a report tells of the failure.  A message without lines is told as an empty line is. -/
def told (f : ExampleFailure) : Told :=
  ⟨f.index, (Text.lines f.message).headD [], (Text.lines f.message).tail⟩

theorem isCut_told (f : ExampleFailure) : f.told.IsCut := by
  have hall : ∀ l ∈ Text.lines f.message, '\n' ∉ l := fun _ hl => Text.newline_not_mem_lines hl
  unfold told
  cases hlines : Text.lines f.message with
  | nil => exact ⟨List.not_mem_nil, List.forall_mem_nil _⟩
  | cons first further =>
    rw [hlines] at hall
    exact List.forall_mem_cons.1 hall

/-- The text of a failure is its heading without the indentation, and its other lines, indented
once. -/
theorem display_eq (f : ExampleFailure) :
    f.display = "example ".toList ++ Text.ofNat f.told.index ++ ": ".toList ++
      (f.told.first ++ f.told.further.flatMap ("\n  ".toList ++ ·)) := by
  unfold display told
  generalize "example ".toList = label
  cases Text.lines f.message <;> rfl

/-- The lines that are indented once are indented twice in a report. -/
theorem replaceChar_further {ls : List Text} (h : ∀ l ∈ ls, '\n' ∉ l) :
    Text.replaceChar '\n' "\n  ".toList (ls.flatMap ("\n  ".toList ++ ·)) =
      (ls.map ("    ".toList ++ ·)).flatMap (['\n'] ++ ·) := by
  induction ls with
  | nil => rfl
  | cons l ls ih =>
    rw [List.forall_mem_cons] at h
    rw [List.flatMap_cons, Text.replaceChar_append, ih h.2, Text.replaceChar_append,
      Text.replaceChar_of_not_mem h.1, List.map_cons, List.flatMap_cons]
    rfl

/-- **In a report the text of a failure becomes its lines**, each with a line feed before it. -/
theorem replaceChar_display (f : ExampleFailure) :
    "\n  ".toList ++ Text.replaceChar '\n' "\n  ".toList f.display =
      f.told.entry.flatMap (['\n'] ++ ·) := by
  have hcut := f.isCut_told
  have hlabel : '\n' ∉ "example ".toList ++ Text.ofNat f.told.index ++ ": ".toList := fun hmem =>
    Told.newline_not_mem_label f.told.index (List.mem_cons_of_mem _ (List.mem_cons_of_mem _ hmem))
  rw [display_eq, Text.replaceChar_append, Text.replaceChar_of_not_mem hlabel,
    Text.replaceChar_append, Text.replaceChar_of_not_mem hcut.1, replaceChar_further hcut.2,
    Told.entry, List.flatMap_cons, ← List.append_assoc, ← List.append_assoc]
  rfl

end ExampleFailure

/-! ## The text of a report -/

namespace Report

/-- The first line of a report, which tells how many examples failed. -/
def summary (r : Report) : Text :=
  Text.ofNat r.failures.length ++ " of ".toList ++ Text.ofNat r.examples ++
    " examples failed in section `".toList ++ r.title ++ "' of `".toList ++ r.document ++ "'".toList

/-- **A report is put together line by line.** -/
theorem message_eq_join (r : Report) :
    r.message = Text.join ['\n'] (r.summary :: (r.failures.map (·.told)).flatMap Told.entry) := by
  rw [Text.join_cons, List.flatMap_assoc, List.flatMap_map, message, failureLines]
  simp only [ExampleFailure.replaceChar_display]
  rfl

variable {r : Report}

theorem newline_not_mem_summary (htitle : '\n' ∉ r.title) (hdocument : '\n' ∉ r.document) :
    '\n' ∉ r.summary := by
  have hwords : '\n' ∉ " of ".toList ∧ '\n' ∉ " examples failed in section `".toList ∧
      '\n' ∉ "' of `".toList ∧ '\n' ∉ "'".toList := by decide
  obtain ⟨hof, hfailed, hin, hquote⟩ := hwords
  unfold summary
  refine List.not_mem_append (List.not_mem_append (List.not_mem_append (List.not_mem_append
    (List.not_mem_append (List.not_mem_append (List.not_mem_append ?_ hof) ?_) hfailed) htitle) hin)
    hdocument) hquote
  · exact Text.newline_not_mem_ofNat _
  · exact Text.newline_not_mem_ofNat _

/-- The summary starts with a digit, so it is not taken for a heading. -/
theorem indentation_summary (r : Report) : Text.indentation r.summary = 0 := by
  obtain ⟨d, ds, hnumber⟩ : ∃ d ds, Text.ofNat r.failures.length = d :: ds :=
    List.exists_cons_of_ne_nil Nat.toDigits_ne_nil
  have hdigit : d.isDigit = true := Text.isDigit_of_mem_ofNat (hnumber ▸ List.mem_cons_self)
  have hspace : d ≠ ' ' := by
    rintro rfl
    exact absurd hdigit (by decide)
  obtain ⟨rest, hrest⟩ : ∃ rest, r.summary = d :: rest := by
    unfold summary
    rw [hnumber]
    exact ⟨_, rfl⟩
  rw [hrest, Text.indentation, List.takeWhile_cons_of_neg (by simpa using hspace)]
  rfl

/-- The lines of a report. -/
theorem splitOn_message (htitle : '\n' ∉ r.title) (hdocument : '\n' ∉ r.document) :
    Text.splitOn '\n' r.message = r.summary :: (r.failures.map (·.told)).flatMap Told.entry := by
  rw [message_eq_join]
  refine Text.splitOn_join (List.forall_mem_cons.2
    ⟨newline_not_mem_summary htitle hdocument, fun l hl => ?_⟩) (List.cons_ne_nil _ _)
  obtain ⟨t, ht, hl⟩ := List.mem_flatMap.1 hl
  obtain ⟨f, -, rfl⟩ := List.mem_map.1 ht
  exact f.isCut_told.entry l hl

/-- Reading goes from the summary to the failures. -/
theorem read_message (htitle : '\n' ∉ r.title) (hdocument : '\n' ∉ r.document) :
    read r.message = r.failures.map (·.told) := by
  have hsummary : Text.indentation r.summary ≠ 2 := by
    rw [indentation_summary]
    decide
  rw [read, splitOn_message htitle hdocument, readLines, if_neg hsummary, readLines_entries]

/-- The lines with two spaces before them are the headings. -/
theorem filter_message (htitle : '\n' ∉ r.title) (hdocument : '\n' ∉ r.document) :
    (Text.splitOn '\n' r.message).filter (Text.indentation · = 2) =
      (r.failures.map (·.told)).map Told.heading := by
  have hsummary : ¬ (decide (Text.indentation r.summary = 2) = true) := by
    rw [indentation_summary]
    decide
  rw [splitOn_message htitle hdocument, List.filter_cons, if_neg hsummary, Told.filter_entry]

/-- Reports of the same text tell the same, and no others do. -/
theorem message_eq_iff {r' : Report} (htitle : '\n' ∉ r.title) (hdocument : '\n' ∉ r.document)
    (htitle' : '\n' ∉ r'.title) (hdocument' : '\n' ∉ r'.document) :
    r.message = r'.message ↔
      r.summary = r'.summary ∧ r.failures.map (·.told) = r'.failures.map (·.told) := by
  constructor
  · intro h
    have hlines := splitOn_message htitle hdocument
    rw [h, splitOn_message htitle' hdocument'] at hlines
    have htold := read_message htitle hdocument
    rw [h, read_message htitle' hdocument'] at htold
    exact ⟨(List.head_eq_of_cons_eq hlines).symm, htold.symm⟩
  · rintro ⟨hsummary, htold⟩
    rw [message_eq_join, message_eq_join, hsummary, htold]

/-- The summary states how many examples failed. -/
theorem leadingNumber_summary (r : Report) : r.summary.leadingNumber = r.failures.length := by
  unfold summary
  simp only [List.append_assoc]
  exact Text.leadingNumber_ofNat_append r.failures.length rfl

/-- **The lines of a report are its summary and the lines of its failures, and what they tell is
read back.**  No message can forge a failure, hide one or join two: the lines with two spaces before
them are the headings of the failures, in their order, and reports of the same text tell the
same. -/
theorem message_read (htitle : '\n' ∉ r.title) (hdocument : '\n' ∉ r.document) :
    Text.splitOn '\n' (CheckError.failures r).message =
        r.summary :: (r.failures.map (·.told)).flatMap Told.entry ∧
      r.summary.leadingNumber = r.failures.length ∧
      (Text.splitOn '\n' (CheckError.failures r).message).filter (Text.indentation · = 2) =
        (r.failures.map (·.told)).map Told.heading ∧
      read (CheckError.failures r).message = r.failures.map (·.told) ∧
      ∀ r' : Report, '\n' ∉ r'.title → '\n' ∉ r'.document →
        ((CheckError.failures r).message = (CheckError.failures r').message ↔
          r.summary = r'.summary ∧ r.failures.map (·.told) = r'.failures.map (·.told)) :=
  ⟨splitOn_message htitle hdocument, leadingNumber_summary r, filter_message htitle hdocument,
    read_message htitle hdocument, fun _ htitle' hdocument' =>
      message_eq_iff htitle hdocument htitle' hdocument'⟩

/-- A message that imitates a heading is told as a line of the failure it belongs to. -/
theorem message_read_imitated :
    let r : Report := ⟨"D".toList, "S".toList, 9,
      [⟨3, "boom\n  example 7: forged\r\n\n".toList⟩, ⟨5, []⟩]⟩
    ('\n' ∉ r.title ∧ '\n' ∉ r.document) ∧
      Text.splitOn '\n' (CheckError.failures r).message = [
        "2 of 9 examples failed in section `S' of `D'".toList, "  example 3: boom".toList,
        "      example 7: forged".toList, "    ".toList, "  example 5: ".toList] ∧
      read (CheckError.failures r).message =
        [⟨3, "boom".toList, ["  example 7: forged".toList, []]⟩, ⟨5, [], []⟩] := by
  intro r
  have htitle : '\n' ∉ r.title := by decide
  have hdocument : '\n' ∉ r.document := by decide
  obtain ⟨hlines, -, -, hread, -⟩ := message_read htitle hdocument
  refine ⟨⟨htitle, hdocument⟩, hlines.trans ?_, hread.trans ?_⟩
  · decide +kernel
  · decide +kernel

end Report
end Doctest
