/-
# What a check calls and what it reports

A check hands scripts to an interpreter and outputs to a comparison.  With both as functions, and a
bench that writes down every call, a block fares in one of these ways:

| block | calls | report |
| --- | --- | --- |
| cannot be read | none | a failure with the fault's message |
| its run fails | the run | none: the check ends with the error |
| is accepted | the run, the comparison | one more example |
| is rejected | the run, the comparison | a failure with the comparison's text |

One step of the loop over the blocks does what the table says (`run_checkBlocks_cons`), and by
induction the loop does it for all of them, up to the first run that fails
(`checkSection_calls_and_report`).
-/

import Doctest.Check.Section
import Doctest.Proofs.Example.Blocks
import Doctest.Proofs.Example.Reading
import Doctest.Proofs.Script.Terminator

namespace Doctest

/-- What a check asks others for. -/
inductive Call where
  | run (script : Text)
  | compare (expected actual : Text) (index : Nat)
deriving DecidableEq, Repr

/-- The interpreter and the comparison of a check, and the library's directory. -/
structure Judge where
  lib : Path
  interpreter : Text → Except RunError Text
  compare : Comparison

namespace Judge

variable (j : Judge)

/-- The bench that runs scripts as the judge's interpreter does and writes the calls down. -/
def bench (files : Path → Except IoError Text) : Bench (StateM (List Call)) where
  lib := j.lib
  readText path := return files path
  runScript script := do
    modify (· ++ [.run script])
    return j.interpreter script

/-- The judge's comparison, which writes the calls down. -/
def compareM (expected actual : Text) (index : Nat) : StateM (List Call) Verdict := do
  modify (· ++ [.compare expected actual index])
  return j.compare expected actual index

/-- What the interpreter makes of the example's script. -/
def output (e : Example) : Except RunError Text := j.interpreter (Script.wrap e.code j.lib.display)

/-- The calls for one block. -/
def calls (b : Block) : List Call :=
  match Example.ofBlock b with
  | .error _ => []
  | .ok e => .run (Script.wrap e.code j.lib.display) ::
    match j.output e with
    | .error _ => []
    | .ok output => [.compare e.expected (Script.unterminated output) b.index]

/-- The error that ends the check at the block, if there is one. -/
def abort? (b : Block) : Option RunError :=
  match Example.ofBlock b with
  | .error _ => none
  | .ok e =>
    match j.output e with
    | .error cause => some cause
    | .ok _ => none

/-- The verdict on a block that does not end the check. -/
def verdict (b : Block) : Verdict :=
  match Example.ofBlock b with
  | .error fault => .error fault.message
  | .ok e =>
    match j.output e with
    | .error _ => .ok ()
    | .ok output => j.compare e.expected (Script.unterminated output) b.index

/-- The failure that the report lists for the block, if it lists one. -/
def failure? (b : Block) : Option ExampleFailure :=
  match j.verdict b with
  | .ok () => none
  | .error message => some ⟨b.index, message⟩

/-- The block can be read and its run ends in the error. -/
def Aborts (b : Block) (cause : RunError) : Prop :=
  ∃ e, Example.ofBlock b = .ok e ∧ j.output e = .error cause

/-- The block cannot be read, and the message says why, or its output is rejected with the
message. -/
def Fails (b : Block) (message : Text) : Prop :=
  (∃ fault, Example.ofBlock b = .error fault ∧ message = fault.message) ∨
    ∃ e output, Example.ofBlock b = .ok e ∧ j.output e = .ok output ∧
      j.compare e.expected (Script.unterminated output) b.index = .error message

theorem abort?_eq_some_iff {b : Block} {cause : RunError} :
    j.abort? b = some cause ↔ j.Aborts b cause := by
  unfold abort? Aborts
  cases Example.ofBlock b with
  | error fault => simp
  | ok e => cases h : j.output e <;> simp [h]

theorem abort?_eq_none_iff {b : Block} : j.abort? b = none ↔ ∀ cause, ¬ j.Aborts b cause := by
  simp only [← abort?_eq_some_iff, Option.eq_none_iff_forall_ne_some, ne_eq]

theorem verdict_eq_error_iff {b : Block} {message : Text} :
    j.verdict b = .error message ↔ j.Fails b message := by
  unfold verdict Fails
  cases Example.ofBlock b with
  | error fault => simp [eq_comm]
  | ok e => cases h : j.output e <;> simp [h]

/-- **A failure names the block and the reason.** -/
theorem failure?_eq_some_iff {b : Block} {f : ExampleFailure} :
    j.failure? b = some f ↔ b.index = f.index ∧ j.Fails b f.message := by
  rw [← verdict_eq_error_iff, failure?]
  cases j.verdict b with
  | ok u => simp
  | error message =>
    obtain ⟨index, text⟩ := f
    simp

/-! ## One block -/

section Run

variable (files : Path → Except IoError Text)

/-- A captured output is what the interpreter gives, less one line terminator. -/
theorem run_capture (e : Example) (log : List Call) :
    ((j.bench files).capture e.code).run log =
      ((j.output e).map Script.unterminated, log ++ [.run (Script.wrap e.code j.lib.display)]) := by
  unfold Bench.capture output
  rw [← funext Script.chomp_eq_unterminated]
  cases h : j.interpreter (Script.wrap e.code j.lib.display) <;> simp [bench, h] <;> rfl

/-- **One step of the loop**: the calls for the block are made, then the error of its run ends the
loop or the verdict on it is recorded. -/
theorem run_checkBlocks_cons (b : Block) (bs : List Block) (r : Report) (log : List Call) :
    ((j.bench files).checkBlocks j.compareM (b :: bs) r).run log =
      match j.abort? b with
      | some cause => (.error (.run cause), log ++ j.calls b)
      | none => ((j.bench files).checkBlocks j.compareM bs (r.record b.index (j.verdict b))).run
          (log ++ j.calls b) := by
  rw [Bench.checkBlocks, abort?, verdict, calls]
  cases hb : Example.ofBlock b with
  | error fault => simp
  | ok e =>
    have hindex := (Example.index_span_of_ofBlock hb).1
    simp only [StateT.run_bind, run_capture]
    cases j.output e with
    | error cause => rfl
    | ok out =>
      have hcalls : log ++ [Call.run (Script.wrap e.code j.lib.display)] ++
          [.compare e.expected (Script.unterminated out) b.index] =
          log ++ (.run (Script.wrap e.code j.lib.display) ::
            [.compare e.expected (Script.unterminated out) b.index]) := by simp
      simp only [← hcalls, compareM, hindex]
      rfl

/-- The report after some more blocks, none of which ended the check. -/
def recordAll (bs : List Block) (r : Report) : Report :=
  bs.foldl (fun r b => r.record b.index (j.verdict b)) r

/-- **The loop goes on past blocks that do not end it**, whatever the verdicts on them are. -/
theorem run_checkBlocks_append {before : List Block} (h : ∀ b ∈ before, j.abort? b = none)
    (rest : List Block) (r : Report) (log : List Call) :
    ((j.bench files).checkBlocks j.compareM (before ++ rest) r).run log =
      ((j.bench files).checkBlocks j.compareM rest (j.recordAll before r)).run
        (log ++ before.flatMap j.calls) := by
  induction before generalizing r log with
  | nil => simp [recordAll]
  | cons b before ih =>
    rw [List.forall_mem_cons] at h
    rw [List.cons_append, run_checkBlocks_cons, h.1]
    simp only
    rw [ih h.2, List.flatMap_cons, ← List.append_assoc]
    rfl

/-- Without a block that ends it the loop ends with the report. -/
theorem run_checkBlocks_of_forall {bs : List Block} (h : ∀ b ∈ bs, j.abort? b = none)
    (r : Report) (log : List Call) :
    ((j.bench files).checkBlocks j.compareM bs r).run log =
      (.ok (j.recordAll bs r), log ++ bs.flatMap j.calls) := by
  have hrun := j.run_checkBlocks_append files h [] r log
  rw [List.append_nil] at hrun
  rw [hrun]
  rfl

/-- The first block that ends the loop gives the error, and nothing is called after it. -/
theorem run_checkBlocks_of_abort {before after : List Block} {k : Block} {cause : RunError}
    (h : ∀ b ∈ before, j.abort? b = none) (hk : j.abort? k = some cause) (r : Report)
    (log : List Call) :
    ((j.bench files).checkBlocks j.compareM (before ++ k :: after) r).run log =
      (.error (.run cause), log ++ (before ++ [k]).flatMap j.calls) := by
  rw [run_checkBlocks_append j files h, run_checkBlocks_cons, hk]
  simp

end Run

/-! ## The report -/

/-- **A report counts every block and lists those with a failure**, in the order of the blocks. -/
theorem recordAll_eq (bs : List Block) (r : Report) :
    j.recordAll bs r = { r with
      examples := r.examples + bs.length
      failures := r.failures ++ bs.filterMap j.failure? } := by
  induction bs generalizing r with
  | nil => simp [recordAll]
  | cons b bs ih =>
    have hcons : j.recordAll (b :: bs) r = j.recordAll bs (r.record b.index (j.verdict b)) := rfl
    rw [hcons, ih, List.filterMap_cons, failure?, List.length_cons]
    cases j.verdict b with
    | ok u => simp [Report.record]; omega
    | error message => simp [Report.record]; omega

/-- The failures of blocks with increasing indices have increasing indices. -/
theorem pairwise_index_failures {bs : List Block} (h : (bs.map Block.index).Pairwise (· < ·)) :
    ((bs.filterMap j.failure?).map ExampleFailure.index).Pairwise (· < ·) := by
  rw [List.pairwise_map, List.pairwise_filterMap]
  refine (List.pairwise_map.1 h).imp fun {a b} hab f hf g hg => ?_
  rw [← (j.failure?_eq_some_iff.1 hf).1, ← (j.failure?_eq_some_iff.1 hg).1]
  exact hab

theorem mem_failures_iff {bs : List Block} {i : Nat} {message : Text} :
    ⟨i, message⟩ ∈ bs.filterMap j.failure? ↔ ∃ b ∈ bs, b.index = i ∧ j.Fails b message := by
  simp only [List.mem_filterMap, failure?_eq_some_iff]

/-- **What a check calls and what it reports.**  A section that is not there is the only thing that
is reported, and nothing is called.  The first block whose run fails ends the check with that error:
the blocks before it were run and compared, one after the other, and it was run.  Without such a
block every block was run and compared if it can be read, in order, and the report counts all
blocks and lists exactly those that cannot be read or were rejected, by increasing index.  Compared
is what the run printed, less the line feed or carriage return, or both, that it ends in. -/
theorem checkSection_calls_and_report (files : Path → Except IoError Text) (d : Document)
    (name : Text) (log : List Call) :
    let check := ((j.bench files).checkSection j.compareM d name).run log
    (∀ fault, d.findSection name = .error fault → check = (.error (.fault fault), log)) ∧
      ∀ s, d.findSection name = .ok s →
        (∀ before k after cause, s.blocks = before ++ k :: after →
          (∀ b ∈ before, ∀ c, ¬ j.Aborts b c) → j.Aborts k cause →
            check = (.error (.run cause), log ++ (before ++ [k]).flatMap j.calls)) ∧
        ((∀ b ∈ s.blocks, ∀ c, ¬ j.Aborts b c) →
          ∃ r, check = (.ok r, log ++ s.blocks.flatMap j.calls) ∧
            r.document = d.name ∧ r.title = name ∧ r.examples = s.blocks.length ∧
            (r.failures.map ExampleFailure.index).Pairwise (· < ·) ∧
            (∀ i message, ⟨i, message⟩ ∈ r.failures ↔
              ∃ b ∈ s.blocks, b.index = i ∧ j.Fails b message) ∧
            r.failures.length ≤ r.examples ∧
            r.passedCount + r.failures.length = r.examples ∧
            r.result = if r.failures = [] then .ok r.examples else .error (.failures r)) := by
  intro check
  refine ⟨fun fault hfault => ?_, fun s hs => ?_⟩
  · simp only [check, Bench.checkSection, hfault]
    rfl
  have hcheck : check = ((j.bench files).checkBlocks j.compareM s.blocks
      (Report.start d.name name)).run log := by
    simp only [check, Bench.checkSection, hs]
  refine ⟨fun before k after cause hblocks hbefore hk => ?_, fun hall => ?_⟩
  · rw [hcheck, hblocks]
    exact j.run_checkBlocks_of_abort files (fun b hb => j.abort?_eq_none_iff.2 (hbefore b hb))
      (j.abort?_eq_some_iff.2 hk) _ log
  · have hrun := j.run_checkBlocks_of_forall files
      (fun b hb => j.abort?_eq_none_iff.2 (hall b hb)) (Report.start d.name name) log
    rw [recordAll_eq] at hrun
    have hlength : (s.blocks.filterMap j.failure?).length ≤ s.blocks.length :=
      List.length_filterMap_le _ _
    refine ⟨_, hcheck.trans hrun, rfl, rfl, ?_, ?_, fun i message => ?_, ?_, ?_, ?_⟩
    · simp [Report.start]
    · simp only [Report.start, List.nil_append]
      refine j.pairwise_index_failures ?_
      rw [s.map_index_blocks]
      exact List.pairwise_lt_range
    · simp only [Report.start, List.nil_append]
      exact j.mem_failures_iff
    · simpa [Report.start] using hlength
    · simp only [Report.start, Report.passedCount, List.nil_append, Nat.zero_add]
      omega
    · simp only [Report.result, Report.passed, List.isEmpty_iff]

end Judge
end Doctest
