/-
# What is found before anything is run

The file number of a document is passed on to its sections, their blocks and every fault in them,
and decides nothing else: the same document under another number has the same faults under that
number (`Document.faults_withFileId`).  So the preflight finds a fault if and only if some document
that can be read has one in its named sections (`Preflight.faults_add_eq_nil_iff`).
-/

import Doctest.Check.Preflight
import Doctest.Proofs.Example.Blocks

namespace Doctest

/-- The section of the same document as file number `n`. -/
def Section.withFileId (s : Section) (n : Nat) : Section := { s with fileId := n }

/-- The block of the same document as file number `n`. -/
def Block.withFileId (b : Block) (n : Nat) : Block := { b with fileId := n }

/-- The fault of the same document as file number `n`. -/
def Fault.withFileId (f : Fault) (n : Nat) : Fault := { f with fileId := n }

theorem Splits.withFileId {title : Text} {fileId index : Nat} {ls : List Line} {bs : List Block}
    (h : Splits title fileId index ls bs) (n : Nat) :
    Splits title n index ls (bs.map (Block.withFileId · n)) := by
  induction h with
  | done => exact .done
  | pass hno _ ih => exact .pass hno ih
  | block hrun _ ih => exact .block hrun ih

namespace Example

theorem ofParts_withFileId (b : Block) (n : Nat) (code : List Line) (expected : Text)
    (form : ExampleForm) :
    ofParts (b.withFileId n) code expected form =
      (ofParts b code expected form).mapError (Fault.withFileId · n) := by
  unfold ofParts
  split <;> rfl

theorem ofBlock_withFileId (b : Block) (n : Nat) :
    ofBlock (b.withFileId n) = (ofBlock b).mapError (Fault.withFileId · n) := by
  unfold ofBlock
  simp only [ofParts_withFileId]
  simp only [Block.withFileId]
  split <;> rfl

end Example

namespace Section

theorem blocks_withFileId (s : Section) (n : Nat) :
    (s.withFileId n).blocks = s.blocks.map (Block.withFileId · n) :=
  (splits_iff.1 (s.splits_blocks.withFileId n)).symm

theorem faults_withFileId (s : Section) (n : Nat) :
    (s.withFileId n).faults = s.faults.map (Fault.withFileId · n) := by
  rw [faults, faults, blocks_withFileId, List.filterMap_map, List.map_filterMap]
  congr 1
  funext b
  simp only [Function.comp, Example.ofBlock_withFileId]
  cases Example.ofBlock b <;> rfl

theorem find?_withFileId (fileId n : Nat) (name : Text) (ls : List Line) :
    find? n name ls = (find? fileId name ls).map (Section.withFileId · n) := by
  induction ls with
  | nil => rfl
  | cons l ls ih =>
    unfold find?
    split
    · split
      · rfl
      · exact ih
    · exact ih

end Section

namespace Document

theorem findSection_withFileId (d : Document) (n : Nat) (name : Text) :
    (d.withFileId n).findSection name =
      ((d.findSection name).map (Section.withFileId · n)).mapError (Fault.withFileId · n) := by
  have hfind : Section.find? (d.withFileId n).fileId name (d.withFileId n).lines =
      (Section.find? d.fileId name d.lines).map (Section.withFileId · n) :=
    Section.find?_withFileId d.fileId n name d.lines
  rw [findSection, findSection, hfind]
  cases Section.find? d.fileId name d.lines <;> rfl

/-- **The number of a document changes nothing but the number in its faults.** -/
theorem faults_withFileId (d : Document) (n : Nat) (names : List Text) :
    (d.withFileId n).faults names = (d.faults names).map (Fault.withFileId · n) := by
  rw [faults, faults, List.map_flatMap]
  congr 1
  funext name
  rw [findSection_withFileId]
  cases d.findSection name with
  | error f => rfl
  | ok s => exact s.faults_withFileId n

end Document

/-- **A document adds faults exactly if its named sections have some.** -/
theorem Preflight.faults_add_eq_nil_iff (p : Preflight) (d : Document) (titles : List Text) :
    (p.add d titles).faults = [] ↔ p.faults = [] ∧ d.faults titles = [] := by
  rw [add, List.append_eq_nil_iff, Document.faults_withFileId, List.map_eq_nil_iff]

end Doctest
