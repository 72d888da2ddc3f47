/-
# Three readers of one section

Listing the examples of a section, collecting its faults and checking it read the same blocks:

| block | listing | collecting | checking |
| --- | --- | --- | --- |
| an example | listed | passed over | run and compared |
| the first with a fault | ends the list | collected | recorded as a failure |
| a later one with a fault | not reached | collected | recorded as a failure |

They agree on which is which (`Document.readers_agree`).  For the check this is an equation between
programs, in any monad: if no run fails and the comparison accepts all it is given, the check hands
over the examples of the blocks that have one and returns the faults of the others.
-/

import Doctest.Check.Section
import Doctest.Proofs.Document.Lookup
import Doctest.Proofs.Example.Outcomes
import Doctest.Proofs.Example.Reading
import Doctest.Proofs.Script.Terminator
import Doctest.Proofs.Text.Utf8

namespace Doctest

/-! ## A check that nothing stops -/

namespace Bench

variable {m : Type → Type} [Monad m]

/-- Runs the example of a block and hands its claimed and its actual output over, the latter without
the terminator at its end, with the index of the block. -/
def present (b : Bench m) (run : Text → m Text) (accept : Text → Text → Nat → m Unit)
    (p : Block × Example) : m Unit := do
  let output ← run (Script.wrap p.2.code b.lib.display)
  accept p.2.expected (Script.unterminated output) p.1.index

/-- **A check that nothing stops presents every example and records every fault**, each in the order
of the blocks.  The induction is on the blocks, over all reports to start from. -/
theorem checkBlocks_eq_forM [LawfulMonad m] {b : Bench m} {run : Text → m Text}
    (hrun : ∀ script, b.runScript script = Except.ok <$> run script)
    (accept : Text → Text → Nat → m Unit) (bs : List Block) (r : Report) :
    b.checkBlocks (fun expected actual index => Except.ok <$> accept expected actual index)
      bs r = do
      (Block.sound bs).forM (b.present run accept)
      return .ok { r with
        examples := r.examples + bs.length
        failures := r.failures ++ (Block.faulty bs).map fun p => ⟨p.1.index, p.2.message⟩ } := by
  induction bs generalizing r with
  | nil => simp [checkBlocks]
  | cons block bs ih =>
    rw [checkBlocks]
    cases h : Example.ofBlock block with
    | error fault =>
      simp only [ih, Block.sound_cons_of_error h, Block.faulty_cons_of_error h, Report.record]
      simp [Nat.add_comm, Nat.add_left_comm]
    | ok e =>
      have hindex := (Example.index_span_of_ofBlock h).1
      simp only [capture, hrun, Block.sound_cons_of_ok h, Block.faulty_cons_of_ok h, Report.record,
        ih, hindex, Script.chomp_eq_unterminated]
      simp [present, Nat.add_comm, Nat.add_left_comm]

end Bench

/-! ## The three readers -/

namespace Document

/-- **The readers of a section agree.**  There are examples exactly if nothing is at fault, and
otherwise the first fault is what is told instead.  A section that is not there is the one fault,
and what the check ends with.  In a section that is there, every block has an example or a fault:
without faults there is an example for each block, and a check whose runs all succeed and whose
comparison accepts everything presents the examples of the blocks that have one, and reports the
message of each fault as the failure of its block. -/
theorem readers_agree (d : Document) (name : Text) :
    ((∃ es, d.examples name = .ok es) ↔ d.faults [name] = []) ∧
      (∀ f, d.examples name = .error f → (d.faults [name]).head? = some f) ∧
      (∀ f, d.findSection name = .error f →
        f.kind = .sectionNotFound ∧ d.faults [name] = [f] ∧
        ∀ (m : Type → Type) [Monad m] (b : Bench m) (compare : Text → Text → Nat → m Verdict),
          b.checkSection compare d name = return .error (.fault f)) ∧
      ∀ s, d.findSection name = .ok s →
        (∀ es, d.examples name = .ok es → es.length = s.blocks.length) ∧
        d.faults [name] = (Block.faulty s.blocks).map Prod.snd ∧
        ∀ (m : Type → Type) [Monad m] [LawfulMonad m] (b : Bench m) (run : Text → m Text)
          (accept : Text → Text → Nat → m Unit),
          (∀ script, b.runScript script = Except.ok <$> run script) →
          b.checkSection (fun expected actual index => Except.ok <$> accept expected actual index)
              d name = do
            (Block.sound s.blocks).forM (b.present run accept)
            return .ok ⟨d.name, name, s.blocks.length,
              (Block.faulty s.blocks).map fun p => ⟨p.1.index, p.2.message⟩⟩ := by
  refine ⟨?_, fun f hf => ?_, fun f hf => ⟨?_, faults_of_error hf, ?_⟩, fun s hs => ⟨?_, ?_, ?_⟩⟩
  · cases hs : d.findSection name with
    | error f => simp [examples_of_error hs, faults_of_error hs]
    | ok s =>
      rw [examples_of_ok hs, faults_of_ok hs]
      cases Block.faulty s.blocks <;> simp
  · cases hs : d.findSection name with
    | error g =>
      rw [examples_of_error hs] at hf
      rw [faults_of_error hs, Except.error.inj hf]
      rfl
    | ok s =>
      rw [examples_of_ok hs] at hf
      rw [faults_of_ok hs, List.head?_map]
      cases hhead : (Block.faulty s.blocks).head? with
      | none => simp [hhead] at hf
      | some p =>
        rw [hhead] at hf
        exact congrArg some (Except.error.inj hf)
  · rw [(findSection_eq_error_iff.1 hf).2]
    rfl
  · intro m _ b compare
    simp only [Bench.checkSection, hf]
  · intro es hes
    rw [examples_of_ok hs] at hes
    have hlength := Block.length_sound_add_length_faulty s.blocks
    cases hfaulty : Block.faulty s.blocks with
    | nil =>
      rw [hfaulty] at hes hlength
      obtain rfl := Except.ok.inj hes
      simpa using hlength
    | cons p ps =>
      rw [hfaulty] at hes
      cases hes
  · exact faults_of_ok hs
  · intro m _ _ b run accept hrun
    simp only [Bench.checkSection, hs, Bench.checkBlocks_eq_forM hrun]
    simp [Report.start]

/-- The first of two blocks has no code: that fault is all that a listing gives, and it is a failure
for a check, which goes on and hands over the other block's outputs. -/
theorem readers_agree_empty_code :
    let d := ofText (.ofText "notes".toList) "= A\n  #### output:\n-\n  1 # => 1\n".toList
    let f : Fault := ⟨.emptyCode 0 "A".toList, ⟨4, 19⟩, 0⟩
    let b : Bench (StateM (List (Text × Text × Nat))) :=
      ⟨[], fun _ => pure (.ok []), fun _ => pure (.ok "2\n".toList)⟩
    d.examples "A".toList = .error f ∧ d.faults ["A".toList] = [f] ∧
      (b.checkSection (fun expected actual index =>
          Except.ok <$> modify (· ++ [(expected, actual, index)])) d "A".toList).run [] =
        (.ok ⟨"notes".toList, "A".toList, 2, [⟨0, f.message⟩]⟩,
          [("1".toList, "2".toList, 1)]) := by
  intro d f b
  let s : Section := ⟨"A".toList, 1, ⟨0, 3⟩, "  #### output:\n-\n  1 # => 1\n".toList, 4, 0⟩
  have hs : d.findSection "A".toList = .ok s := by decide +kernel
  have hblocks : s.blocks = [⟨0, "A".toList, "  #### output:\n".toList, ⟨4, 19⟩, 0⟩,
      ⟨1, "A".toList, "  1 # => 1\n".toList, ⟨21, 32⟩, 0⟩] := by decide +kernel
  have hexamples : d.examples "A".toList = .error f := by decide +kernel
  obtain ⟨-, -, -, hfound⟩ := readers_agree d "A".toList
  obtain ⟨-, hfaults, hcheck⟩ := hfound s hs
  rw [hblocks] at hfaults hcheck
  refine ⟨hexamples, hfaults, ?_⟩
  have hname : d.name = "notes".toList := Path.display_ofText _
  rw [hcheck _ b (fun _ => pure "2\n".toList) _ fun _ => rfl, hname]
  rfl

end Document
end Doctest
