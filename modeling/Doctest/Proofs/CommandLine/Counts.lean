/-
# What the tally counts

A case that is run is counted once, as passed or as failed, and a failed one gets an entry under its
title.  `Surroundings.Counts` relates the tally before a list of cases and the one after it: one
result is recorded for each case, one that the case can have.  Every way to run cases keeps to it
(`Desk.Within.yields_runGroups`, `Desk.Within.yields_runSuites`); the two styles differ in the cases
alone:

| style | cases | title |
| --- | --- | --- |
| spec | the sections as they are listed | the document and the section |
| unit | each listed section once | the suite and the test |

In unit style two sections are one if their titles are the same and their documents are shown alike.

By induction on the cases, the counts grow by as many as there are cases, and a case that cannot
pass adds to the failed ones.
-/

import Doctest.Proofs.Check.Outcomes
import Doctest.Proofs.Suite.Registry
import Doctest.CommandLine.Commands

namespace Doctest

open Std.Do

/-- A case with the title that its failure is shown under. -/
structure TitledCase where
  title : Text
  case : SectionCase
deriving DecidableEq, Repr

/-- The tally after some more cases, each with a result that it can have. -/
inductive Surroundings.Counts (W : Surroundings) : List TitledCase → Tally → Tally → Prop
  | nil (s : Tally) : Counts W [] s s
  | cons {c : TitledCase} {cs : List TitledCase} {s s' : Tally} {result : Except CheckError Nat} :
      W.Results c.case.document c.case.title result → Counts W cs (s.record c.title result) s' →
        Counts W (c :: cs) s s'

namespace Surroundings.Counts

variable {W : Surroundings} {cs cs' : List TitledCase} {s s' s'' : Tally}

theorem append (h : W.Counts cs s s') (h' : W.Counts cs' s' s'') : W.Counts (cs ++ cs') s s'' := by
  induction h with
  | nil s => exact h'
  | cons hc _ ih => exact .cons hc (ih h')

/-- **Every case is counted once.** -/
theorem passed_add_failed (h : W.Counts cs s s') :
    s'.passed + s'.failed = s.passed + s.failed + cs.length := by
  induction h with
  | nil s => rfl
  | @cons c cs s s' result _ _ ih =>
    rw [ih, List.length_cons]
    cases result <;> simp only [Tally.record] <;> omega

/-- **Every failed case has an entry.** -/
theorem length_failures (h : W.Counts cs s s') (hs : s.failures.length = s.failed) :
    s'.failures.length = s'.failed := by
  induction h with
  | nil s => exact hs
  | @cons c cs s s' result _ _ ih =>
    refine ih ?_
    cases result <;> simp [Tally.record, hs]

theorem failed_le (h : W.Counts cs s s') : s.failed ≤ s'.failed := by
  induction h with
  | nil s => exact Nat.le_refl _
  | @cons c cs s s' result _ _ ih =>
    refine Nat.le_trans ?_ ih
    cases result <;> simp [Tally.record]

/-- **A case that cannot pass is counted as failed.** -/
theorem failed_lt (h : W.Counts cs s s') {c : TitledCase} (hc : c ∈ cs)
    (hfail : ∀ result, W.Results c.case.document c.case.title result → ∃ e, result = .error e) :
    s.failed < s'.failed := by
  induction h with
  | nil s => cases hc
  | @cons c' cs s s' result hresult hrest ih =>
    rcases List.mem_cons.1 hc with rfl | hmem
    · obtain ⟨e, rfl⟩ := hfail result hresult
      exact Nat.lt_of_lt_of_le (Nat.lt_succ_self _) hrest.failed_le
    · refine Nat.lt_of_le_of_lt ?_ (ih hmem)
      cases result <;> simp [Tally.record]

end Surroundings.Counts

/-- A desk whose calls stay in the frame and find the surroundings. -/
structure Desk.Within {m : Type → Type} {ps : PostShape} [Monad m] [WPMonad m ps] (F : Frame ps)
    (k : Desk m) (W : Surroundings) : Prop where
  bench : k.bench.Within F W
  print : ∀ text, F.Tells (k.print .err text) fun t _ => t = text

/-! ## Cases -/

/-- The cases for sections of a document, in order. -/
def SectionCase.ofSections (document : Path) (titles : List Text) : List SectionCase :=
  titles.map (⟨document, ·⟩)

theorem SectionCase.map_shown_ofSections (document : Path) (titles : List Text) :
    (ofSections document titles).map shown = titles.map (document.display, ·) := by
  rw [ofSections, List.map_map]
  rfl

/-- The cases that the documents list, in order. -/
def DocumentEntry.listed (ds : List DocumentEntry) : List SectionCase :=
  ds.flatMap fun d => SectionCase.ofSections d.path d.sections

theorem DocumentEntry.forall_mem_listed {ds : List DocumentEntry} {p : SectionCase → Prop} :
    (∀ c ∈ listed ds, p c) ↔ ∀ d ∈ ds, ∀ title ∈ d.sections, p ⟨d.path, title⟩ := by
  simp only [listed, SectionCase.ofSections, List.forall_mem_flatMap, List.forall_mem_map]

/-- The cases of a group, under the document and the section. -/
def SpecGroup.titled (g : SpecGroup) : List TitledCase :=
  g.cases.map fun c => ⟨g.title ++ [' '] ++ sectionTitle c, c⟩

/-- The tests of a suite, under the suite and the test. -/
def UnitSuite.titled (u : UnitSuite) : List TitledCase :=
  u.cases.map fun c => ⟨u.name ++ "::".toList ++ c.name, c.case⟩

/-- The groups of the documents. -/
def SpecGroup.ofEntries (ds : List DocumentEntry) : List SpecGroup :=
  ds.map fun d => ofSections d.path d.sections

/-- The suites of the documents, with one registry for all of them. -/
def Registry.suites : Registry → List DocumentEntry → List UnitSuite
  | _, [] => []
  | r, d :: ds => (r.suite d.path d.sections).1 :: (r.suite d.path d.sections).2.suites ds

/-- The cases of a group are the sections as they are listed. -/
theorem SpecGroup.case_titled (document : Path) (titles : List Text) :
    (ofSections document titles).titled.map TitledCase.case =
      SectionCase.ofSections document titles := by
  rw [titled, List.map_map]
  exact List.map_id _

theorem SpecGroup.case_titled_ofEntries (ds : List DocumentEntry) :
    ((ofEntries ds).flatMap titled).map TitledCase.case = DocumentEntry.listed ds := by
  rw [ofEntries, List.flatMap_map, List.map_flatMap, DocumentEntry.listed]
  simp only [case_titled]

/-- Of listed cases that are shown alike, one is run: the cases are listed ones, and shown in the
order in which they are listed first. -/
structure SectionCase.Firsts (cs listed : List SectionCase) : Prop where
  mem : ∀ c ∈ cs, c ∈ listed
  shown : cs.map shown = (listed.map shown).eraseDups

/-- The pairs that a registry hands out names for are those of the cases. -/
theorem Registry.map_shown_titled (r : Registry) (document : Path) (titles : List Text) :
    ((r.suite document titles).1.titled.map TitledCase.case).map SectionCase.shown =
      (r.handedOut (.suite document titles)).map Prod.fst := by
  rw [UnitSuite.titled, handedOut, List.map_map, List.map_map, List.map_map]
  rfl

theorem Registry.map_shown_suites (r : Registry) (ds : List DocumentEntry) :
    (((r.suites ds).flatMap UnitSuite.titled).map TitledCase.case).map SectionCase.shown =
      (r.handedOutAll (ds.map fun d => .suite d.path d.sections)).map Prod.fst := by
  induction ds generalizing r with
  | nil => rfl
  | cons d ds ih =>
    rw [suites, List.flatMap_cons, List.map_append, List.map_append, map_shown_titled, ih]
    exact List.map_append.symm

/-- A suite has cases for sections that are listed. -/
theorem Registry.mem_ofSections_of_mem_titled {r : Registry} {document : Path} {titles : List Text}
    {c : TitledCase} (h : c ∈ (r.suite document titles).1.titled) :
    c.case ∈ SectionCase.ofSections document titles := by
  obtain ⟨u, hu, rfl⟩ := List.mem_map.1 h
  obtain ⟨title, htitle, hcase⟩ := mem_of_mem_registerAll hu
  exact List.mem_map.2 ⟨title, htitle, hcase.symm⟩

theorem Registry.mem_listed_of_mem_suites {r : Registry} {ds : List DocumentEntry} {c : TitledCase}
    (h : c ∈ (r.suites ds).flatMap UnitSuite.titled) : c.case ∈ DocumentEntry.listed ds := by
  induction ds generalizing r with
  | nil => cases h
  | cons d ds ih =>
    rw [suites, List.flatMap_cons] at h
    rw [DocumentEntry.listed, List.flatMap_cons]
    rcases List.mem_append.1 h with hfirst | hlater
    · exact List.mem_append_left _ (mem_ofSections_of_mem_titled hfirst)
    · exact List.mem_append_right _ (ih hlater)

/-- **Unit style runs each section once that is listed and shown differently.** -/
theorem Registry.firsts_suites (ds : List DocumentEntry) :
    SectionCase.Firsts (((empty.suites ds).flatMap UnitSuite.titled).map TitledCase.case)
      (DocumentEntry.listed ds) where
  mem := List.forall_mem_map.2 fun _ hc => mem_listed_of_mem_suites hc
  shown := by
    rw [map_shown_suites, pairs_handedOutAll, DocumentEntry.listed, List.flatMap_map,
      List.map_flatMap]
    simp only [Use.pairs, SectionCase.map_shown_ofSections]

theorem UnitSuite.firsts_ofSections (document : Path) (titles : List Text) :
    SectionCase.Firsts ((ofSections document titles).titled.map TitledCase.case)
      (SectionCase.ofSections document titles) where
  mem := List.forall_mem_map.2 fun _ hc => Registry.mem_ofSections_of_mem_titled hc
  shown := by
    have hpairs := Registry.pairs_handedOutAll [.suite document titles]
    simp only [Registry.handedOutAll, List.append_nil, List.flatMap_singleton] at hpairs
    rw [ofSections, Registry.map_shown_titled, hpairs, SectionCase.map_shown_ofSections]
    rfl

namespace Desk.Within

variable {m : Type → Type} {ps : PostShape} [Monad m] [WPMonad m ps] {F : Frame ps} {k : Desk m}
  {W : Surroundings}

theorem yields_runCase (h : k.Within F W) (indent label title : Text) (c : SectionCase)
    (s : Tally) : F.Yields (k.runCase indent label title c s) (W.Counts [⟨title, c⟩] s) := by
  refine (h.bench.yields_resultOfFile c.document c.title).bind fun result hresult => ?_
  refine (h.print _).bind fun _ _ _ => ?_
  exact Frame.yields_pure (.cons hresult (.nil _))

/-- A loop whose steps run one case each runs the cases one after the other. -/
theorem yields_foldlM {α : Type} {step : Tally → α → m Tally} {caseOf : α → TitledCase}
    (hstep : ∀ s a, F.Yields (step s a) (W.Counts [caseOf a] s)) (as : List α) (s : Tally) :
    F.Yields (as.foldlM step s) (W.Counts (as.map caseOf) s) := by
  induction as generalizing s with
  | nil => exact Frame.yields_pure (.nil s)
  | cons a as ih =>
    rw [List.foldlM_cons]
    exact (hstep s a).bind fun s' hs' => (ih s').mono fun s'' hs'' => hs'.append hs''

theorem yields_runGroup (h : k.Within F W) (g : SpecGroup) (s : Tally) :
    F.Yields (k.runGroup g s) (W.Counts g.titled s) := by
  refine (h.print _).bind fun _ _ _ => yields_foldlM (fun s c => ?_) g.cases s
  exact (h.print _).bind fun _ _ _ => h.yields_runCase _ _ _ c s

theorem yields_runSuite (h : k.Within F W) (u : UnitSuite) (s : Tally) :
    F.Yields (k.runSuite u s) (W.Counts u.titled s) :=
  (h.print _).bind fun _ _ _ => yields_foldlM
    (fun s c => h.yields_runCase _ _ _ c.case s) u.cases s

/-- **Spec style runs the groups of the documents**, one after the other. -/
theorem yields_runGroups (h : k.Within F W) (ds : List DocumentEntry) (s : Tally) :
    F.Yields (k.runGroups ds s)
      (W.Counts ((SpecGroup.ofEntries ds).flatMap SpecGroup.titled) s) := by
  induction ds generalizing s with
  | nil => exact Frame.yields_pure (.nil s)
  | cons d ds ih =>
    exact (h.yields_runGroup _ s).bind fun s' hs' => (ih s').mono fun s'' hs'' => hs'.append hs''

/-- **Unit style runs the suites of the documents**, one after the other. -/
theorem yields_runSuites (h : k.Within F W) (ds : List DocumentEntry) (r : Registry) (s : Tally) :
    F.Yields (k.runSuites ds r s) (W.Counts ((r.suites ds).flatMap UnitSuite.titled) s) := by
  induction ds generalizing r s with
  | nil => exact Frame.yields_pure (.nil s)
  | cons d ds ih =>
    exact (h.yields_runSuite _ s).bind fun s' hs' => (ih _ s').mono fun s'' hs'' => hs'.append hs''

/-- **The result is shown last**, and its exit code is returned. -/
theorem tells_close (h : k.Within F W) (s : Tally) :
    F.Tells (k.close s) fun t code => t = s.closingText k.colored ∧ code = s.exitCode :=
  (h.print _).bind fun t _ ht => Frame.tells_pure ⟨(List.append_nil t).trans ht, rfl⟩

end Desk.Within
end Doctest
