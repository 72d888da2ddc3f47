/-
# What the exit code says

The exit code of a run of sections comes from the tally alone.  Over files that stay as they are and
an interpreter with one result for each script, it says whether every case that is run passes, and
the text that is shown ends with the result of the tally, which lists the failed ones
(`Tally.Closes`).

| command | runs |
| --- | --- |
| `spec` | the sections of a document, as they are listed |
| `test` | each section of a document once |
| `check`, in spec style | the sections of all documents, as they are listed |
| `check`, in unit style | each of them once, of documents that are shown alike only the first |

So all of them come to the verdict on what is listed, but for a check in unit style of documents
that are shown alike without being the same (`DocumentEntry.ShownApart`).

The preflight of `check` and the run of the sections read the documents each for itself, and the
exit code is that of the run.  A fault that the preflight finds is met again by the run, whatever
the interpreter does, and a document that cannot be read fails each of its sections
(`Desk.Within.check_of_problem`).  A document that lists no sections fails none:

| document | sections | preflight | exit code |
| --- | --- | --- | ---: |
| cannot be read | some | complains | 1 |
| cannot be read | none | complains | 0, if nothing else fails |
| some section has a fault | | shows it | 1 |
-/

import Doctest.Proofs.Check.Preflight
import Doctest.Proofs.CommandLine.Closing
import Doctest.Proofs.CommandLine.Counts
import Doctest.Proofs.Text.Utf8

namespace Doctest

open Std.Do

namespace Bench

variable (w : Bench Id)

/-- The result of a case on a bench without effects. -/
def result (c : SectionCase) : Except CheckError Nat :=
  (w.resultOfFile Bench.equality c.document c.title).run

/-- The case passes on a bench without effects. -/
def Passes (c : SectionCase) : Prop := ∃ n, w.result c = .ok n

instance : DecidablePred w.Passes := fun c =>
  match h : w.result c with
  | .ok n => isTrue ⟨n, h⟩
  | .error e => isFalse fun ⟨n, hn⟩ => by cases h.symm.trans hn

/-- The exit code that the cases deserve. -/
def verdict (cs : List SectionCase) : Nat := if ∀ c ∈ cs, w.Passes c then 0 else 1

/-- The entry of a case that fails. -/
def failure? (c : TitledCase) : Option FailedCase :=
  match w.result c.case with
  | .ok _ => none
  | .error e => some ⟨c.title, e.message⟩

/-- The desk of a bench without effects, on which nothing is shown. -/
def desk : Desk Id := ⟨w, fun _ _ => pure (), false⟩

variable {w} {cs cs' : List SectionCase}

theorem verdict_eq_zero_iff : w.verdict cs = 0 ↔ ∀ c ∈ cs, w.Passes c := by
  simp [verdict]

/-- Neither order nor repetition matters for the verdict. -/
theorem verdict_congr (h : ∀ c, c ∈ cs ↔ c ∈ cs') : w.verdict cs = w.verdict cs' := by
  simp only [verdict, h]

theorem failure?_eq_none_iff {c : TitledCase} : w.failure? c = none ↔ w.Passes c.case := by
  unfold failure? Passes
  cases w.result c.case <;> simp

end Bench

/-- The tally is one of the cases that ends with the exit code: every case is counted, as passed or
as failed, each failed one has its entry, in order, and the exit code is 1 exactly if one failed. -/
structure Tally.Accounts (s : Tally) (w : Bench Id) (cs : List TitledCase) (code : Nat) : Prop where
  counted : s.passed + s.failed = cs.length
  failed : s.failed = s.failures.length
  failures : s.failures = cs.filterMap w.failure?
  exit : code = s.exitCode
  one_iff : code = 1 ↔ 0 < s.failed

/-- The text ends with the result of a tally of the cases, and the exit code is that of the tally.
If each title is on one line, the text lists the titles of the cases that failed. -/
def Tally.Closes (w : Bench Id) (colored : Bool) (cs : List TitledCase) (t : Text) (code : Nat) :
    Prop :=
  ∃ before s, t = before ++ Tally.closingText colored s ∧ s.Accounts w cs code ∧
    ((∀ c ∈ cs, '\n' ∉ c.title) →
      listedTitles (s.closingText colored) = (cs.filterMap w.failure?).map FailedCase.title)

theorem Tally.exitCode_eq_one_iff (s : Tally) : s.exitCode = 1 ↔ 0 < s.failed := by
  rw [exitCode]
  split <;> omega

namespace Tally.Accounts

variable {w : Bench Id} {s : Tally} {cs : List TitledCase} {code : Nat}

/-- **The exit code is the verdict on the cases.** -/
theorem code_eq_verdict (h : s.Accounts w cs code) : code = w.verdict (cs.map TitledCase.case) := by
  have hpass : (∀ c ∈ cs.map TitledCase.case, w.Passes c) ↔ s.failed = 0 := by
    rw [h.failed, h.failures, List.length_eq_zero_iff, List.filterMap_eq_nil_iff,
      List.forall_mem_map]
    exact forall₂_congr fun _ _ => Bench.failure?_eq_none_iff.symm
  rw [h.exit, exitCode, Bench.verdict]
  simp only [hpass]

/-- What is shown last lists the titles of the cases that failed. -/
theorem closes (h : s.Accounts w cs code) (before : Text) (colored : Bool) :
    Closes w colored cs (before ++ s.closingText colored) code := by
  refine ⟨before, s, rfl, h, fun htitles => ?_⟩
  rw [← h.failures]
  refine listedTitles_closingText (fun f hf => ?_) colored
  rw [h.failures] at hf
  obtain ⟨c, hc, hfailure⟩ := List.mem_filterMap.1 hf
  unfold Bench.failure? at hfailure
  split at hfailure
  · cases hfailure
  · exact Option.some.inj hfailure ▸ htitles c hc

end Tally.Accounts

theorem Tally.Closes.code_eq_verdict {w : Bench Id} {colored : Bool}
    {cs : List TitledCase} {t : Text} {code : Nat} (h : Closes w colored cs t code) :
    code = w.verdict (cs.map TitledCase.case) := by
  obtain ⟨_, _, -, haccounts, -⟩ := h
  exact haccounts.code_eq_verdict

namespace Surroundings.Counts

variable {s s' : Tally} {cs : List TitledCase}

/-- A case that cannot pass makes the exit code 1. -/
theorem exitCode_of_fails {W : Surroundings} (h : W.Counts cs .zero s) {c : TitledCase}
    (hc : c ∈ cs)
    (hfail : ∀ result, W.Results c.case.document c.case.title result → ∃ e, result = .error e) :
    s.exitCode = 1 :=
  s.exitCode_eq_one_iff.2 (h.failed_lt hc hfail)

variable {w : Bench Id}

/-- **Each failed case has its entry**, in order. -/
theorem failures_eq (h : (of w).Counts cs s s') :
    s'.failures = s.failures ++ cs.filterMap w.failure? := by
  induction h with
  | nil s => simp
  | @cons c cs s s' result hresult _ ih =>
    have hrun : w.result c.case = result := hresult.eq_run.symm
    rw [ih]
    cases result with
    | ok n => simp [Tally.record, Bench.failure?, hrun]
    | error e => simp [Tally.record, Bench.failure?, hrun]

/-- A run from nothing on accounts for its cases. -/
theorem accounts (h : (of w).Counts cs .zero s) : s.Accounts w cs s.exitCode where
  counted := by simpa [Tally.zero] using h.passed_add_failed
  failed := (h.length_failures rfl).symm
  failures := h.failures_eq
  exit := rfl
  one_iff := s.exitCode_eq_one_iff

end Surroundings.Counts

/-! ## Documents that are shown alike -/

/-- Documents that are shown alike are the same. -/
def DocumentEntry.ShownApart (ds : List DocumentEntry) : Prop :=
  ∀ d ∈ ds, ∀ d' ∈ ds, d.path.display = d'.path.display → d.path = d'.path

/-- Paths that encode texts are shown apart. -/
theorem DocumentEntry.shownApart_of_text {ds : List DocumentEntry}
    (h : ∀ d ∈ ds, ∃ t, d.path = Path.ofText t) : ShownApart ds := by
  intro d hd d' hd' hshown
  obtain ⟨t, ht⟩ := h d hd
  obtain ⟨t', ht'⟩ := h d' hd'
  rw [ht, ht', Path.display_ofText, Path.display_ofText] at hshown
  rw [ht, ht', hshown]

/-- **A case that is shown like no other is among the first ones.** -/
theorem SectionCase.Firsts.mem_of_shown {cs listed : List SectionCase} (h : Firsts cs listed)
    {c : SectionCase} (hc : c ∈ listed)
    (hapart : ∀ c' ∈ listed, c'.document.display = c.document.display → c'.document = c.document) :
    c ∈ cs := by
  have hshown : c.shown ∈ cs.map SectionCase.shown := by
    rw [h.shown, List.mem_eraseDups]
    exact List.mem_map_of_mem hc
  obtain ⟨c', hc', heq⟩ := List.mem_map.1 hshown
  obtain ⟨hdocument, htitle⟩ := Prod.mk.inj heq
  have hsame : c' = c := by
    cases c
    cases c'
    obtain rfl := hapart _ (h.mem _ hc') hdocument
    obtain rfl := htitle
    rfl
  exact hsame ▸ hc'

theorem SectionCase.Firsts.mem_iff {ds : List DocumentEntry} {cs : List SectionCase}
    (h : Firsts cs (DocumentEntry.listed ds)) (hapart : DocumentEntry.ShownApart ds)
    (c : SectionCase) : c ∈ cs ↔ c ∈ DocumentEntry.listed ds := by
  have hlisted : ∀ c ∈ DocumentEntry.listed ds, ∃ d ∈ ds, c.document = d.path := by
    rw [DocumentEntry.forall_mem_listed]
    exact fun d hd _ _ => ⟨d, hd, rfl⟩
  refine ⟨h.mem c, fun hc => h.mem_of_shown hc fun c' hc' hshown => ?_⟩
  obtain ⟨d, hd, hdocument⟩ := hlisted c hc
  obtain ⟨d', hd', hdocument'⟩ := hlisted c' hc'
  rw [hdocument, hdocument'] at hshown ⊢
  exact hapart d' hd' d hd hshown

/-! ## What the commands run -/

/-- The cases of a check in a style. -/
def Style.cases : Style → List DocumentEntry → List TitledCase
  | .spec, ds => (SpecGroup.ofEntries ds).flatMap SpecGroup.titled
  | .unit, ds => (Registry.empty.suites ds).flatMap UnitSuite.titled

/-- The verdict on the cases of a style is that on what is listed, unless documents are shown
alike. -/
theorem Style.verdict_cases {w : Bench Id} {style : Style} {ds : List DocumentEntry}
    (h : style = .spec ∨ DocumentEntry.ShownApart ds) :
    w.verdict ((style.cases ds).map TitledCase.case) = w.verdict (DocumentEntry.listed ds) := by
  cases style with
  | spec => exact congrArg w.verdict (SpecGroup.case_titled_ofEntries ds)
  | unit => exact Bench.verdict_congr ((Registry.firsts_suites ds).mem_iff (h.resolve_left nofun))

/-- A suite of one document has a test for each of its sections. -/
theorem SectionCase.Firsts.mem_iff_of_ofSections {document : Path} {titles : List Text}
    {cs : List SectionCase} (h : Firsts cs (ofSections document titles)) (c : SectionCase) :
    c ∈ cs ↔ c ∈ ofSections document titles := by
  have hsame : ∀ c ∈ ofSections document titles, c.document = document :=
    List.forall_mem_map.2 fun _ _ => rfl
  exact ⟨h.mem c, fun hc => h.mem_of_shown hc fun c' hc' _ =>
    (hsame c' hc').trans (hsame c hc).symm⟩

/-- The cases that a command runs, if it is one that runs sections. -/
inductive Command.Runs (c : Config) : Command → List TitledCase → Prop
  | spec (document : Path) (titles : List Text) :
      Runs c (.spec document titles) (SpecGroup.ofSections document titles).titled
  | test (document : Path) (titles : List Text) :
      Runs c (.test document titles) (UnitSuite.ofSections document titles).titled
  | check (style? : Option Style) : c.documents ≠ [] →
      Runs c (.check style?) ((style?.getD c.style).cases c.documents)

/-- The document cannot be read, or a section that is listed for it has a fault. -/
def DocumentEntry.HasProblem (files : Path → Except IoError Text) (e : DocumentEntry) : Prop :=
  match files e.path with
  | .error _ => True
  | .ok source => (Document.ofText e.path source).faults e.sections ≠ []

/-- A problem with a document that lists a section is one with a section that it lists. -/
theorem DocumentEntry.HasProblem.exists_faulty {W : Surroundings} {e : DocumentEntry}
    (h : e.HasProblem W.files) (hsections : e.sections ≠ []) :
    ∃ title ∈ e.sections, W.Faulty e.path title := by
  unfold HasProblem at h
  unfold Surroundings.Faulty
  cases hfile : W.files e.path with
  | error cause =>
    obtain ⟨title, htitle⟩ := List.exists_mem_of_ne_nil _ hsections
    exact ⟨title, htitle, trivial⟩
  | ok source =>
    rw [hfile] at h
    simpa [Document.faults] using h

theorem Bench.within_desk (w : Bench Id) : w.desk.Within Frame.trivial (.of w) :=
  ⟨Surroundings.within_of w, fun text => Frame.tells_trivial_iff.2 ⟨text, rfl⟩⟩

namespace Desk.Within

variable {m : Type → Type} {ps : PostShape} [Monad m] [WPMonad m ps] {F : Frame ps} {k : Desk m}

/-! ## Before the run -/

/-- **The preflight goes over all documents**, and finds a fault exactly if one that can be read has
one in its listed sections. -/
theorem yields_preflight {W : Surroundings} (h : k.Within F W) (ds : List DocumentEntry)
    (p : Preflight) :
    F.Yields (k.preflight ds p) fun p' => p'.faults = [] ↔ p.faults = [] ∧
      ∀ e ∈ ds, ∀ source, W.files e.path = .ok source →
        (Document.ofText e.path source).faults e.sections = [] := by
  induction ds generalizing p with
  | nil => exact Frame.yields_pure (by simp)
  | cons e ds ih =>
    refine (h.bench.yields_readDocument e.path).bind fun x hx => ?_
    subst hx
    cases hfile : W.files e.path with
    | error cause =>
      refine (h.print _).bind fun _ _ _ => (ih p).mono fun p' hp' => ?_
      simp [hp', hfile]
    | ok source =>
      refine (ih _).mono fun p' hp' => ?_
      simp [hp', hfile, Preflight.faults_add_eq_nil_iff, and_assoc]

/-- The exit code of a check of some documents is that of the run of their sections, whatever the
preflight finds. -/
theorem tells_check {W : Surroundings} (h : k.Within F W) {c : Config} (hc : c.documents ≠ [])
    (style? : Option Style) : F.Tells (k.check c style?) fun t code => ∃ before s,
      t = before ++ s.closingText k.colored ∧ code = s.exitCode ∧
        W.Counts ((style?.getD c.style).cases c.documents) .zero s := by
  rw [Desk.check, if_neg hc]
  refine Frame.Tells.bind (h.yields_preflight c.documents .empty) fun t p _ => ?_
  refine (h.print _).bind fun t' _ _ => ?_
  cases style?.getD c.style with
  | spec =>
    refine Frame.Tells.bind (h.yields_runGroups c.documents .zero) fun t'' s hs => ?_
    refine (h.tells_close s).mono fun _ _ hclose => ?_
    exact ⟨t ++ (t' ++ t''), s, by simp [hclose.1], hclose.2, hs⟩
  | unit =>
    refine Frame.Tells.bind (h.yields_runSuites c.documents .empty .zero) fun t'' s hs => ?_
    refine (h.tells_close s).mono fun _ _ hclose => ?_
    exact ⟨t ++ (t' ++ t''), s, by simp [hclose.1], hclose.2, hs⟩

/-! ## Problems and the exit code -/

/-- **A problem with a document that lists a section makes the exit code 1**, whatever the
interpreter does: a fault that the preflight finds fails the section that it is in, and a document
that cannot be read fails every section that it lists.  In unit style a section of a document that
is shown as another one may have no test, so there must be no such one; among paths that encode
texts there is none (`DocumentEntry.shownApart_of_text`). -/
theorem check_of_problem {W : Surroundings} (h : k.Within F W) {c : Config} {e : DocumentEntry}
    (he : e ∈ c.documents) (hsections : e.sections ≠ []) (hproblem : e.HasProblem W.files)
    (style? : Option Style)
    (hapart : style?.getD c.style = .unit →
      ∀ d ∈ c.documents, d.path.display = e.path.display → d.path = e.path) :
    F.Yields (k.check c style?) (· = 1) := by
  obtain ⟨title, htitle, hfaulty⟩ := hproblem.exists_faulty hsections
  have hlisted : ⟨e.path, title⟩ ∈ DocumentEntry.listed c.documents :=
    List.mem_flatMap.2 ⟨e, he, List.mem_map_of_mem htitle⟩
  have hrun : ⟨e.path, title⟩ ∈
      ((style?.getD c.style).cases c.documents).map TitledCase.case := by
    cases hstyle : style?.getD c.style with
    | spec => exact (SpecGroup.case_titled_ofEntries c.documents).symm ▸ hlisted
    | unit =>
      refine (Registry.firsts_suites c.documents).mem_of_shown hlisted ?_
      exact DocumentEntry.forall_mem_listed.2 fun d hd _ _ hshown => hapart hstyle d hd hshown
  obtain ⟨x, hx, hcase⟩ := List.mem_map.1 hrun
  refine (h.tells_check (List.ne_nil_of_mem he) style?).mono fun _ code hcode => ?_
  obtain ⟨_, s, -, rfl, hs⟩ := hcode
  refine hs.exitCode_of_fails hx fun result hresult => ?_
  rw [hcase] at hresult
  exact hresult.error_of_faulty hfaulty

/-- A document that is not there, with one section listed. -/
theorem check_of_problem_missing :
    let w : Bench Id := ⟨.ofText "lib".toList, fun _ => .error .notFound, fun _ => .ok []⟩
    let e : DocumentEntry := ⟨.ofText "missing.rdoc".toList, ["S".toList]⟩
    let c : Config := ⟨none, .spec, none, none, [e]⟩
    w.desk.Within Frame.trivial (.of w) ∧ e ∈ c.documents ∧ e.HasProblem (Surroundings.of w).files ∧
      ∀ style?, (w.desk.check c style?).run = 1 := by
  intro w e c
  have he : e ∈ c.documents := List.mem_singleton.2 rfl
  have halone : ∀ d ∈ c.documents, d.path.display = e.path.display → d.path = e.path :=
    fun d hd _ => congrArg DocumentEntry.path (List.mem_singleton.1 hd)
  refine ⟨w.within_desk, he, trivial, fun style? => ?_⟩
  exact Frame.yields_trivial_iff.1
    (check_of_problem w.within_desk he (List.cons_ne_nil _ _) trivial style? fun _ => halone)

/-- A document that is not there fails nothing if no section of it is listed. -/
theorem check_passes_missing_without_sections :
    let w : Bench Id := ⟨.ofText "lib".toList, fun _ => .error .notFound, fun _ => .ok []⟩
    let e : DocumentEntry := ⟨.ofText "missing.rdoc".toList, []⟩
    let c : Config := ⟨none, .spec, none, none, [e]⟩
    w.desk.Within Frame.trivial (.of w) ∧ e ∈ c.documents ∧ e.HasProblem (Surroundings.of w).files ∧
      ∀ style?, (w.desk.check c style?).run = 0 := by
  intro w e c
  refine ⟨w.within_desk, List.mem_singleton.2 rfl, trivial, fun style? => ?_⟩
  rcases style? with _ | _ | _ <;> rfl

/-! ## One verdict -/

variable {w : Bench Id}

/-- **A run of sections shows last what became of them**, and ends with the verdict on them. -/
theorem tells_run [MonadExceptOf Halt m] (h : k.Within F (.of w))
    (runEach : List Path → m (Except RunError Unit)) {c : Config} {command : Command}
    {cs : List TitledCase} (hruns : command.Runs c cs) :
    F.Tells (k.run runEach c command) (Tally.Closes w k.colored cs) := by
  cases hruns with
  | spec document titles =>
    refine Frame.Tells.bind (h.yields_runGroup _ .zero) fun t s hs => ?_
    exact (h.tells_close s).mono fun _ _ hclose => hclose.1 ▸ hclose.2 ▸ hs.accounts.closes t _
  | test document titles =>
    refine Frame.Tells.bind (h.yields_runSuite _ .zero) fun t s hs => ?_
    exact (h.tells_close s).mono fun _ _ hclose => hclose.1 ▸ hclose.2 ▸ hs.accounts.closes t _
  | check style? hc =>
    refine (h.tells_check hc style?).mono fun t code hcode => ?_
    obtain ⟨before, s, rfl, rfl, hs⟩ := hcode
    exact hs.accounts.closes before _

end Desk.Within

/-- The messages are there exactly if some section does not pass. -/
theorem Bench.Within.yields_assertSections {m : Type → Type} {ps : PostShape} [Monad m]
    [WPMonad m ps] {F : Frame ps} {b : Bench m} {w : Bench Id} (h : b.Within F (.of w))
    (document : Path) (titles : List Text) :
    F.Yields (b.assertSections document titles) fun message =>
      message = none ↔ ∀ c ∈ SectionCase.ofSections document titles, w.Passes c := by
  have hgo : F.Yields (Bench.assertSections.go b document titles) fun messages =>
      messages = [] ↔ ∀ c ∈ SectionCase.ofSections document titles, w.Passes c := by
    induction titles with
    | nil => exact Frame.yields_pure (by simp [SectionCase.ofSections])
    | cons title titles ih =>
      refine (h.yields_resultOfFile document title).bind fun result hresult => ?_
      have hrun : w.result ⟨document, title⟩ = result := hresult.eq_run.symm
      cases result with
      | ok n =>
        have hpass : w.Passes ⟨document, title⟩ := ⟨n, hrun⟩
        exact ih.mono fun messages hmessages => by
          simp [SectionCase.ofSections, hmessages, hpass]
      | error e =>
        have hfail : ¬ w.Passes ⟨document, title⟩ := by
          rintro ⟨n, hn⟩
          rw [hrun] at hn
          cases hn
        exact ih.bind fun messages _ =>
          Frame.yields_pure (by simp [SectionCase.ofSections, hfail])
  refine hgo.bind fun messages hmessages => Frame.yields_pure ?_
  split
  · simpa using hmessages.1 ‹_›
  · simpa using fun hall => ‹messages ≠ []› (hmessages.2 hall)

end Doctest
