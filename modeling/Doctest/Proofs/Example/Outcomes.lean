/-
# Blocks that are examples and blocks that are not

A block is read as an example or has a fault.  The list of the blocks of a section falls into the
two kinds, each in the order of the blocks:

| asked for | answer |
| --- | --- |
| all examples | the fault of the first faulty block, or the examples of all blocks |
| all faults | the faults of the faulty blocks |

So there are examples exactly if no block is faulty (`Section.examples_eq`, `Section.faults_eq`).
-/

import Doctest.Example.Basic

namespace Doctest

namespace Block

/-- The blocks that are examples, each with its example. -/
def sound (bs : List Block) : List (Block × Example) :=
  bs.filterMap fun b => match Example.ofBlock b with
    | .ok e => some (b, e)
    | .error _ => none

/-- The blocks that are no examples, each with its fault. -/
def faulty (bs : List Block) : List (Block × Fault) :=
  bs.filterMap fun b => match Example.ofBlock b with
    | .ok _ => none
    | .error f => some (b, f)

@[simp] theorem sound_nil : sound [] = [] := rfl

@[simp] theorem faulty_nil : faulty [] = [] := rfl

section Cons

variable {b : Block} {e : Example} {f : Fault}

theorem sound_cons_of_ok (h : Example.ofBlock b = .ok e) (bs : List Block) :
    sound (b :: bs) = (b, e) :: sound bs :=
  List.filterMap_cons_some (by rw [h])

theorem sound_cons_of_error (h : Example.ofBlock b = .error f) (bs : List Block) :
    sound (b :: bs) = sound bs :=
  List.filterMap_cons_none (by rw [h])

theorem faulty_cons_of_ok (h : Example.ofBlock b = .ok e) (bs : List Block) :
    faulty (b :: bs) = faulty bs :=
  List.filterMap_cons_none (by rw [h])

theorem faulty_cons_of_error (h : Example.ofBlock b = .error f) (bs : List Block) :
    faulty (b :: bs) = (b, f) :: faulty bs :=
  List.filterMap_cons_some (by rw [h])

end Cons

/-- The examples are those that their blocks are read as. -/
theorem mem_sound_iff {bs : List Block} {b : Block} {e : Example} :
    (b, e) ∈ sound bs ↔ b ∈ bs ∧ Example.ofBlock b = .ok e := by
  unfold sound
  rw [List.mem_filterMap]
  constructor
  · rintro ⟨a, ha, h⟩
    cases hread : Example.ofBlock a with
    | error f => simp [hread] at h
    | ok e' =>
      rw [hread] at h
      obtain ⟨rfl, rfl⟩ := Prod.mk.inj (Option.some.inj h)
      exact ⟨ha, hread⟩
  · rintro ⟨hb, h⟩
    exact ⟨b, hb, by rw [h]⟩

/-- **Every block is of one of the two kinds.** -/
theorem length_sound_add_length_faulty (bs : List Block) :
    (sound bs).length + (faulty bs).length = bs.length := by
  induction bs with
  | nil => rfl
  | cons b bs ih =>
    cases h : Example.ofBlock b with
    | ok e =>
      rw [sound_cons_of_ok h, faulty_cons_of_ok h, List.length_cons, List.length_cons]
      omega
    | error f =>
      rw [sound_cons_of_error h, faulty_cons_of_error h, List.length_cons, List.length_cons]
      omega

/-- **Reading block after block stops at the first faulty one**, or gives all examples. -/
theorem mapM_ofBlock (bs : List Block) :
    bs.mapM Example.ofBlock = match (faulty bs).head? with
      | some p => .error p.2
      | none => .ok ((sound bs).map Prod.snd) := by
  induction bs with
  | nil => rfl
  | cons b bs ih =>
    rw [List.mapM_cons]
    cases h : Example.ofBlock b with
    | error f =>
      rw [faulty_cons_of_error h]
      rfl
    | ok e =>
      rw [ih, faulty_cons_of_ok h, sound_cons_of_ok h]
      cases (faulty bs).head? <;> rfl

end Block

namespace Section

/-- The faults of a section are those of its faulty blocks. -/
theorem faults_eq (s : Section) : s.faults = (Block.faulty s.blocks).map Prod.snd := by
  rw [faults, Block.faulty, List.map_filterMap]
  congr 1
  funext b
  cases Example.ofBlock b <;> rfl

/-- The examples of a section are those of its blocks, unless one of them is faulty. -/
theorem examples_eq (s : Section) :
    s.examples = match (Block.faulty s.blocks).head? with
      | some p => .error p.2
      | none => .ok ((Block.sound s.blocks).map Prod.snd) :=
  Block.mapM_ofBlock s.blocks

end Section

namespace Document

variable {d : Document} {name : Text}

/-- The faults of a section that is found are those of its blocks. -/
theorem faults_of_ok {s : Section} (hs : d.findSection name = .ok s) :
    d.faults [name] = (Block.faulty s.blocks).map Prod.snd := by
  simp [faults, hs, s.faults_eq]

/-- A section that is not found is the only fault. -/
theorem faults_of_error {f : Fault} (hf : d.findSection name = .error f) :
    d.faults [name] = [f] := by
  simp [faults, hf]

/-- The examples of a section that is found, unless one of its blocks has a fault. -/
theorem examples_of_ok {s : Section} (hs : d.findSection name = .ok s) :
    d.examples name = match (Block.faulty s.blocks).head? with
      | some p => .error p.2
      | none => .ok ((Block.sound s.blocks).map Prod.snd) := by
  rw [examples, hs]
  exact s.examples_eq

/-- A section that is not found has no examples. -/
theorem examples_of_error {f : Fault} (hf : d.findSection name = .error f) :
    d.examples name = .error f := by
  rw [examples, hf]
  rfl

/-- **An example of a document is read from a block of its section.** -/
theorem exists_block_of_mem {es : List Example} (hes : d.examples name = .ok es) {e : Example}
    (he : e ∈ es) :
    ∃ s, d.findSection name = .ok s ∧ ∃ b ∈ s.blocks, Example.ofBlock b = .ok e := by
  cases hs : d.findSection name with
  | error f =>
    rw [examples_of_error hs] at hes
    cases hes
  | ok s =>
    rw [examples_of_ok hs] at hes
    split at hes
    · cases hes
    · obtain rfl := Except.ok.inj hes
      obtain ⟨⟨b, _⟩, hmem, rfl⟩ := List.mem_map.1 he
      exact ⟨s, rfl, b, Block.mem_sound_iff.1 hmem⟩

end Document

end Doctest
