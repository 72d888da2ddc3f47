/-
# What the check of a section can come to

The files hold what they hold, and the interpreter makes of each script one of the results that are
possible for it.  With no more known of either, the check of the blocks ends in one of these ways:

| next block | then |
| --- | --- |
| none | the report is done |
| cannot be read | its failure is recorded, and the rest is checked |
| its run may fail | the check may end with that error |
| its run may print something | the verdict on that is recorded, and the rest is checked |

`Surroundings.Ends` says so, one case for each row, and a check keeps to it in any monad whose calls
stay in a frame (`Bench.Within.yields_checkBlocks`).  Two facts follow by induction on how a check
ends.  A section with a fault, or in a file that cannot be read, never passes, whatever the
interpreter does (`Results.error_of_faulty`).  And where each script has one possible result, the
check ends as the one without any effects does (`Results.eq_run`).
-/

import Doctest.Proofs.Frame
import Doctest.Proofs.Script.Terminator
import Doctest.Check.Section

namespace Doctest

open Std.Do

/-- What a check finds around it: the library's directory, the contents of the files, and the
results that running a script may have. -/
structure Surroundings where
  lib : Path
  files : Path → Except IoError Text
  runs : Text → Except RunError Text → Prop

namespace Surroundings

variable (W : Surroundings)

/-- How the check of blocks can end that starts with a report. -/
inductive Ends : List Block → Report → Except CheckError Report → Prop
  | done (r : Report) : Ends [] r (.ok r)
  | faulty {b : Block} {bs : List Block} {r : Report} {fault : Fault}
      {x : Except CheckError Report} :
      Example.ofBlock b = .error fault → Ends bs (r.record b.index (.error fault.message)) x →
        Ends (b :: bs) r x
  | aborted {b : Block} {e : Example} {cause : RunError} (bs : List Block) (r : Report) :
      Example.ofBlock b = .ok e → W.runs (Script.wrap e.code W.lib.display) (.error cause) →
        Ends (b :: bs) r (.error (.run cause))
  | compared {b : Block} {bs : List Block} {r : Report} {e : Example} {output : Text}
      {x : Except CheckError Report} :
      Example.ofBlock b = .ok e → W.runs (Script.wrap e.code W.lib.display) (.ok output) →
        Ends bs (r.record b.index
          (Comparison.equality e.expected (Script.unterminated output) e.index)) x →
        Ends (b :: bs) r x

/-- The results that a section of a file can have. -/
inductive Results (path : Path) (title : Text) : Except CheckError Nat → Prop
  | unreadable {cause : IoError} : W.files path = .error cause →
      Results path title (.error (.unreadable path cause))
  | missing {source : Text} {fault : Fault} : W.files path = .ok source →
      (Document.ofText path source).findSection title = .error fault →
        Results path title (.error (.fault fault))
  | checked {source : Text} {s : Section} {x : Except CheckError Report} :
      W.files path = .ok source → (Document.ofText path source).findSection title = .ok s →
        W.Ends s.blocks (Report.start path.display title) x →
          Results path title (x.bind Report.result)

end Surroundings

/-- A bench whose calls stay in the frame and find the surroundings. -/
structure Bench.Within {m : Type → Type} {ps : PostShape} [Monad m] [WPMonad m ps] (F : Frame ps)
    (b : Bench m) (W : Surroundings) : Prop where
  lib_eq : b.lib = W.lib
  readText : ∀ path, F.Yields (b.readText path) (· = W.files path)
  runScript : ∀ script, F.Yields (b.runScript script) (W.runs script)

/-! ## Checks in a frame -/

namespace Bench.Within

variable {m : Type → Type} {ps : PostShape} [Monad m] [WPMonad m ps] {F : Frame ps} {b : Bench m}
  {W : Surroundings}

theorem yields_capture (h : b.Within F W) (code : Text) :
    F.Yields (b.capture code) fun x =>
      ∃ y, W.runs (Script.wrap code W.lib.display) y ∧ x = y.map Script.unterminated := by
  rw [Bench.capture, h.lib_eq]
  refine (h.runScript _).bind fun y hy => ?_
  cases y with
  | error cause => exact Frame.yields_pure ⟨_, hy, rfl⟩
  | ok output => exact Frame.yields_pure ⟨_, hy,
    congrArg Except.ok (Script.chomp_eq_unterminated _)⟩

/-- **The loop over the blocks ends in one of the ways it can.** -/
theorem yields_checkBlocks (h : b.Within F W) (bs : List Block) (r : Report) :
    F.Yields (b.checkBlocks Bench.equality bs r) (W.Ends bs r) := by
  induction bs generalizing r with
  | nil => exact Frame.yields_pure (.done r)
  | cons block bs ih =>
    rw [Bench.checkBlocks]
    cases hblock : Example.ofBlock block with
    | error fault => exact (ih _).mono fun x hx => .faulty hblock hx
    | ok e =>
      refine (h.yields_capture e.code).bind fun x ⟨y, hy, hx⟩ => ?_
      subst hx
      cases y with
      | error cause => exact Frame.yields_pure (.aborted bs r hblock hy)
      | ok output =>
        simp only [Except.map, Bench.equality, pure_bind]
        exact (ih _).mono fun x hx => .compared hblock hy hx

theorem yields_readDocument (h : b.Within F W) (path : Path) :
    F.Yields (b.readDocument path) (· = (W.files path).map (Document.ofText path)) := by
  refine (h.readText path).bind fun x hx => ?_
  subst hx
  cases hfile : W.files path with
  | error cause => exact Frame.yields_pure rfl
  | ok source => exact Frame.yields_pure rfl

/-- **The result of a section is one that it can have.** -/
theorem yields_resultOfFile (h : b.Within F W) (path : Path) (title : Text) :
    F.Yields (b.resultOfFile Bench.equality path title) (W.Results path title) := by
  have hcheck : F.Yields (b.checkFile Bench.equality path title) fun x =>
      W.Results path title (x.bind Report.result) := by
    refine (h.yields_readDocument path).bind fun d hd => ?_
    subst hd
    cases hfile : W.files path with
    | error cause => exact Frame.yields_pure (.unreadable hfile)
    | ok source =>
      simp only [Except.map, Bench.checkSection]
      cases hfind : (Document.ofText path source).findSection title with
      | error fault => exact Frame.yields_pure (.missing hfile hfind)
      | ok s => exact (h.yields_checkBlocks _ _).mono fun x hx => .checked hfile hfind hx
  refine hcheck.bind fun x hx => ?_
  cases x with
  | error e => exact Frame.yields_pure hx
  | ok report => exact Frame.yields_pure hx

end Bench.Within

namespace Surroundings

variable {W : Surroundings}

/-! ## Faults -/

/-- Once a failure is recorded, or with a block to come that cannot be read, a report that gets done
has a failure. -/
theorem Ends.failures_ne_nil {bs : List Block} {r r' : Report} (h : W.Ends bs r (.ok r'))
    (hfaulty : r.failures ≠ [] ∨ ∃ b ∈ bs, ∃ fault, Example.ofBlock b = .error fault) :
    r'.failures ≠ [] := by
  generalize hx : Except.ok r' = x at h
  induction h with
  | done r =>
    cases hx
    simpa using hfaulty
  | faulty _ _ ih => exact ih (.inl (by simp [Report.record])) hx
  | aborted => cases hx
  | @compared b bs r e output x hb _ _ ih =>
    refine ih ?_ hx
    rcases hfaulty with hr | ⟨b', hb', fault, hfault⟩
    · left
      cases Comparison.equality e.expected (Script.unterminated output) e.index <;>
        simp [Report.record, hr]
    · right
      -- The block just compared could be read.
      rcases List.mem_cons.1 hb' with rfl | hmem
      · rw [hb] at hfault
        cases hfault
      · exact ⟨b', hmem, fault, hfault⟩

/-- The file cannot be read, or the section has a fault. -/
def Faulty (W : Surroundings) (path : Path) (title : Text) : Prop :=
  match W.files path with
  | .error _ => True
  | .ok source => (Document.ofText path source).faults [title] ≠ []

/-- **A section with a fault never passes**, whatever the interpreter makes of its scripts. -/
theorem Results.error_of_faulty {path : Path} {title : Text} {result : Except CheckError Nat}
    (h : W.Results path title result) (hfaulty : W.Faulty path title) :
    ∃ e, result = .error e := by
  cases h with
  | unreadable _ => exact ⟨_, rfl⟩
  | missing _ _ => exact ⟨_, rfl⟩
  | @checked source s x hfile hfind hends =>
    cases x with
    | error e => exact ⟨e, rfl⟩
    | ok r =>
      have hfaults : s.faults ≠ [] := by simpa [Faulty, hfile, Document.faults, hfind] using hfaulty
      obtain ⟨fault, hfault⟩ := List.exists_mem_of_ne_nil _ hfaults
      obtain ⟨b, hb, hblock⟩ := List.mem_filterMap.1 hfault
      have hfailures := hends.failures_ne_nil (.inr ⟨b, hb, by
        cases hread : Example.ofBlock b with
        | error fault => exact ⟨fault, rfl⟩
        | ok e => simp [hread] at hblock⟩)
      exact ⟨.failures r, by simp [Except.bind, Report.result, Report.passed, hfailures]⟩

/-! ## Interpreters with one result for each script -/

/-- Each script has at most one result. -/
def Functional (W : Surroundings) : Prop :=
  ∀ script x y, W.runs script x → W.runs script y → x = y

/-- The block decides which row of the table it is, and its script which result the row has. -/
theorem Ends.unique (hW : W.Functional) {bs : List Block} {r : Report}
    {x y : Except CheckError Report} (hx : W.Ends bs r x) (hy : W.Ends bs r y) : x = y := by
  induction hx with
  | done r => cases hy with | done => rfl
  | faulty hb _ ih => cases hy <;> grind
  | aborted bs r hb hrun => cases hy <;> grind [Functional]
  | compared hb hrun _ ih => cases hy <;> grind [Functional]

/-- **A section has one result** if each script has. -/
theorem Results.unique (hW : W.Functional) {path : Path} {title : Text}
    {x y : Except CheckError Nat} (hx : W.Results path title x) (hy : W.Results path title y) :
    x = y := by
  cases hx with
  | unreadable hfile => cases hy <;> grind
  | missing hfile hfind => cases hy <;> grind
  | checked hfile hfind hends => cases hy <;> grind [Ends.unique]

/-- The surroundings of a bench without effects: each script has the one result it gives. -/
def of (w : Bench Id) : Surroundings :=
  ⟨w.lib, fun path => (w.readText path).run, fun script x => x = (w.runScript script).run⟩

theorem functional_of (w : Bench Id) : (of w).Functional := fun _ _ _ hx hy => hx.trans hy.symm

theorem within_of (w : Bench Id) : w.Within Frame.trivial (of w) :=
  ⟨rfl, fun _ => Frame.yields_trivial_iff.2 rfl, fun _ => Frame.yields_trivial_iff.2 rfl⟩

/-- **The one result that a section can have** is that of the check without effects. -/
theorem Results.eq_run {w : Bench Id} {path : Path} {title : Text}
    {result : Except CheckError Nat} (h : (of w).Results path title result) :
    result = (w.resultOfFile Bench.equality path title).run :=
  h.unique (functional_of w)
    (Frame.yields_trivial_iff.1 ((within_of w).yields_resultOfFile path title))

end Surroundings
end Doctest
