/-
# Where the faults of a preflight point

The preflight numbers the documents that can be read, and passes over the others.  A fault is shown
by the number of its document and a span of offsets in the source kept under that number; where the
two do not fit, nothing would be shown and nobody would be told.  They always fit:

| fault | points at |
| --- | --- |
| section not found | nothing, at the start of the document |
| ambiguous block | the second separator, without its terminator |
| no code | the block, from its first line to its last one |

A fault is found at a *site*: a document, a section listed for it, a block of the section.
`Preflight.findings` goes through the sites in order, and the faults of a preflight are those that
are found on the way (`Preflight.faults_addAll`).  What a fault points at is cut out of the source
because the block is (`Document.cutFrom_block`), and a separator is a line of its block.
-/

import Doctest.Proofs.CommandLine.ExitCode
import Doctest.Proofs.Example.Outcomes
import Doctest.Proofs.Example.Spans

namespace Doctest

/-! ## Sites -/

/-- Where a fault is found, each part counted from 0: the document among those that can be read, the
section among those listed for it, and the block in the section, 0 if the section is not there. -/
structure Site where
  document : Nat
  listed : Nat
  block : Nat
deriving DecidableEq, Repr

/-- The one site comes before the other: its document does, or its section in the same document, or
its block in the same section. -/
def Site.Before (a b : Site) : Prop :=
  a.document < b.document ∨ a.document = b.document ∧
    (a.listed < b.listed ∨ a.listed = b.listed ∧ a.block < b.block)

/-- A document and the sections listed for it. -/
abbrev ListedDocument := Document × List Text

/-- The documents that can be read, in order. -/
def DocumentEntry.readable (files : Path → Except IoError Text) (es : List DocumentEntry) :
    List ListedDocument :=
  es.filterMap fun e => match files e.path with
    | .ok source => some (Document.ofText e.path source, e.sections)
    | .error _ => none

/-- The site has the fault: a listed section that is not in the document, or a block of one that is
no example. -/
inductive Fault.FoundAt (ds : List ListedDocument) : Site → Fault → Prop
  | missing {n i : Nat} {d : ListedDocument} {title : Text} {f : Fault} : ds[n]? = some d →
      d.2[i]? = some title → d.1.findSection title = .error f →
        FoundAt ds ⟨n, i, 0⟩ (f.withFileId n)
  | faulty {n i j : Nat} {d : ListedDocument} {title : Text} {s : Section} {b : Block} {f : Fault} :
      ds[n]? = some d → d.2[i]? = some title → d.1.findSection title = .ok s →
        s.blocks[j]? = some b → Example.ofBlock b = .error f →
          FoundAt ds ⟨n, i, j⟩ (f.withFileId n)

/-! ## What stands at a place -/

/-- The span is one of the document, between characters, and the text stands there. -/
structure Document.Holds (d : Document) (span : Span) (t : Text) : Prop where
  start_le_stop : span.start ≤ span.stop
  stop_le : span.stop ≤ Text.bytes d.source
  slice : d.slice? span = some t

/-- A slice is between the ends of the document. -/
theorem Document.holds_of_slice? {d : Document} {span : Span} {t : Text}
    (h : d.slice? span = some t) : d.Holds span t := by
  obtain ⟨a, b, hsource, hstart, hstop⟩ := Text.slice?_eq_some_iff.1 h
  refine ⟨by omega, ?_, h⟩
  rw [hsource, Text.bytes_append, Text.bytes_append]
  omega

/-- The fault points at the text that it is about, in a document, a section of it and a block of the
section. -/
def Fault.PointsAt (f : Fault) (d : Document) (title : Text) (block : Nat) : Prop :=
  match f.kind with
  | .sectionNotFound => f.span = ⟨0, 0⟩ ∧ d.Holds f.span []
  | .ambiguousBlock => ∃ s b second, d.findSection title = .ok s ∧ s.blocks[block]? = some b ∧
      (b.lines.filter Example.isSeparator)[1]? = some second ∧ d.Holds f.span second.text
  | .emptyCode => ∃ s b, d.findSection title = .ok s ∧ s.blocks[block]? = some b ∧
      d.Holds f.span b.text

/-- The label can be shown: its file is known, and its ends are in the file and between
characters. -/
def Label.IsShown (files : List (Text × Text)) (l : Label) : Prop :=
  ∃ name source, files[l.fileId]? = some (name, source) ∧ l.span.start ≤ l.span.stop ∧
    l.span.stop ≤ Text.bytes source ∧ ∃ t, Text.slice? source l.span.start l.span.stop = some t

/-- **A block that is no example has two separators, or no code.** -/
theorem Example.ofBlock_eq_error {b : Block} {f : Fault} (h : ofBlock b = .error f) :
    f = codeless b ∨ ∃ first second more, b.lines.filter isSeparator = first :: second :: more ∧
      f = ambiguous b (more.length + 2) second := by
  have hparts : ∀ code expected form, ofParts b code expected form = .error f → f = codeless b := by
    intro code expected form hcode
    unfold ofParts at hcode
    split at hcode
    · exact (Except.error.inj hcode).symm
    · cases hcode
  unfold ofBlock at h
  simp only at h
  split at h
  · exact .inl (hparts _ _ _ h)
  · exact .inl (hparts _ _ _ h)
  · rename_i first second more hseparators
    exact .inr ⟨first, second, more, hseparators, (Except.error.inj h).symm⟩

namespace Document

variable {d : Document} {title : Text} {f : Fault}

/-- A section that is not there is missed at the start of the document. -/
theorem pointsAt_missing (hf : d.findSection title = .error f) (n block : Nat) :
    (f.withFileId n).PointsAt d title block := by
  obtain ⟨-, rfl⟩ := findSection_eq_error_iff.1 hf
  exact ⟨rfl, holds_of_slice? (Text.slice?_eq_some_iff.2 ⟨[], d.source, rfl, rfl, rfl⟩)⟩

/-- **The fault of a block points into the block.** -/
theorem pointsAt_faulty {s : Section} {b : Block} {j : Nat} (hs : d.findSection title = .ok s)
    (hj : s.blocks[j]? = some b) (hf : Example.ofBlock b = .error f) (n : Nat) :
    (f.withFileId n).PointsAt d title j := by
  have hcut : b.CutFrom d s := cutFrom_block hs (List.mem_of_getElem? hj)
  rcases Example.ofBlock_eq_error hf with rfl | ⟨first, second, more, hseparators, rfl⟩
  · exact ⟨s, b, hs, hj, holds_of_slice? hcut.slice⟩
  · have hsecond : second ∈ b.lines := by
      have hmem : second ∈ b.lines.filter Example.isSeparator := by simp [hseparators]
      exact List.mem_of_mem_filter hmem
    exact ⟨s, b, second, hs, hj, by rw [hseparators]; rfl,
      holds_of_slice? (hcut.slice_text second hsecond).1⟩

end Document

/-- **A fault points into the document that it is numbered for**, at the text that it is about. -/
theorem Fault.FoundAt.pointsAt {ds : List ListedDocument} {site : Site} {f : Fault}
    (h : f.FoundAt ds site) :
    f.fileId = site.document ∧ ∃ d title, ds[site.document]? = some d ∧
      d.2[site.listed]? = some title ∧ f.PointsAt d.1 title site.block := by
  cases h with
  | missing hd ht hf => exact ⟨rfl, _, _, hd, ht, Document.pointsAt_missing hf _ _⟩
  | faulty hd ht hs hb hf => exact ⟨rfl, _, _, hd, ht, Document.pointsAt_faulty hs hb hf _⟩

/-- Whatever a fault is about, its span holds a text. -/
theorem Fault.PointsAt.exists_holds {f : Fault} {d : Document} {title : Text} {block : Nat}
    (h : f.PointsAt d title block) : ∃ t, d.Holds f.span t := by
  unfold PointsAt at h
  split at h
  · exact ⟨_, h.2⟩
  · obtain ⟨-, -, second, -, -, -, ht⟩ := h
    exact ⟨_, ht⟩
  · obtain ⟨-, b, -, -, ht⟩ := h
    exact ⟨_, ht⟩

/-! ## All faults in order -/

namespace Preflight

/-- The fault of a block with its number, with its site in the section listed as number `i`. -/
def findingOfBlock? (n i : Nat) (b : Block × Nat) : Option (Site × Fault) :=
  match Example.ofBlock b.1 with
  | .ok _ => none
  | .error f => some (⟨n, i, b.2⟩, f.withFileId n)

/-- The faults of a section listed as number `i`, each with its site. -/
def findingsOfSection (n : Nat) (d : Document) (i : Nat) (title : Text) : List (Site × Fault) :=
  match d.findSection title with
  | .error f => [(⟨n, i, 0⟩, f.withFileId n)]
  | .ok s => s.blocks.zipIdx.filterMap (findingOfBlock? n i)

/-- The faults of the document with number `n`, each with its site. -/
def findingsOfDocument (n : Nat) (d : ListedDocument) : List (Site × Fault) :=
  d.2.zipIdx.flatMap fun title => findingsOfSection n d.1 title.2 title.1

/-- The faults of documents numbered from `n` on, each with its site. -/
def findings (n : Nat) (ds : List ListedDocument) : List (Site × Fault) :=
  (ds.zipIdx n).flatMap fun d => findingsOfDocument d.2 d.1

/-- The preflight after some more documents. -/
def addAll (p : Preflight) (ds : List ListedDocument) : Preflight :=
  ds.foldl (fun p d => p.add d.1 d.2) p

theorem findingOfBlock?_eq_some_iff {n i : Nat} {b : Block × Nat} {site : Site} {f : Fault} :
    findingOfBlock? n i b = some (site, f) ↔
      ∃ f', Example.ofBlock b.1 = .error f' ∧ site = ⟨n, i, b.2⟩ ∧ f = f'.withFileId n := by
  unfold findingOfBlock?
  cases Example.ofBlock b.1 <;> simp [eq_comm]

/-- The sites left out, the faults of a section are those of its blocks. -/
theorem map_findingsOfSection (n : Nat) (d : Document) (i : Nat) (title : Text) :
    (findingsOfSection n d i title).map Prod.snd =
      (d.faults [title]).map (Fault.withFileId · n) := by
  unfold findingsOfSection
  cases hs : d.findSection title with
  | error f => simp [Document.faults_of_error hs]
  | ok s =>
    have hblocks : s.faults =
        (s.blocks.zipIdx.map Prod.fst).filterMap fun b => match Example.ofBlock b with
          | .ok _ => none
          | .error f => some f := by
      rw [List.zipIdx_map_fst]
      rfl
    -- The numbers of the blocks stand in the sites only.
    rw [Document.faults_of_ok hs, ← s.faults_eq, hblocks, List.filterMap_map, List.map_filterMap,
      List.map_filterMap]
    congr 1
    funext b
    simp only [Function.comp, findingOfBlock?]
    cases Example.ofBlock b.1 <;> rfl

theorem map_findingsOfDocument (n : Nat) (d : ListedDocument) :
    (findingsOfDocument n d).map Prod.snd = (d.1.faults d.2).map (Fault.withFileId · n) := by
  have htitles : d.1.faults d.2 =
      (d.2.zipIdx.map Prod.fst).flatMap fun title => d.1.faults [title] := by
    rw [List.zipIdx_map_fst, Document.faults]
    congr 1
    funext title
    rw [Document.faults, List.flatMap_singleton]
  rw [findingsOfDocument, htitles, List.flatMap_map, List.map_flatMap, List.map_flatMap]
  congr 1
  funext title
  exact map_findingsOfSection n d.1 title.2 title.1

theorem files_addAll (p : Preflight) (ds : List ListedDocument) :
    (p.addAll ds).files = p.files ++ ds.map fun d => (d.1.name, d.1.source) := by
  induction ds generalizing p with
  | nil => simp [addAll]
  | cons d ds ih =>
    rw [addAll, List.foldl_cons, ← addAll, ih, add, List.map_cons, List.append_assoc]
    rfl

/-- **The faults of a preflight are those that are found on the way through the sites.** -/
theorem faults_addAll (p : Preflight) (ds : List ListedDocument) :
    (p.addAll ds).faults = p.faults ++ (findings p.files.length ds).map Prod.snd := by
  induction ds generalizing p with
  | nil => simp [addAll, findings]
  | cons d ds ih =>
    have hfiles : (p.add d.1 d.2).files.length = p.files.length + 1 := by simp [add]
    rw [addAll, List.foldl_cons, ← addAll, ih, hfiles, add, findings, findings, List.zipIdx_cons,
      List.flatMap_cons, List.map_append, map_findingsOfDocument, Document.faults_withFileId,
      List.append_assoc]

theorem mem_findingsOfSection_iff {n i : Nat} {d : Document} {title : Text} {site : Site}
    {f : Fault} :
    (site, f) ∈ findingsOfSection n d i title ↔
      (∃ f', d.findSection title = .error f' ∧ site = ⟨n, i, 0⟩ ∧ f = f'.withFileId n) ∨
        ∃ s j b f', d.findSection title = .ok s ∧ s.blocks[j]? = some b ∧
          Example.ofBlock b = .error f' ∧ site = ⟨n, i, j⟩ ∧ f = f'.withFileId n := by
  unfold findingsOfSection
  cases d.findSection title with
  | error f' => simp
  | ok s =>
    simp only [List.mem_filterMap, Prod.exists, List.mem_zipIdx_iff_getElem?,
      findingOfBlock?_eq_some_iff]
    constructor
    · rintro ⟨b, j, hb, f', hf, hsite, hfault⟩
      exact .inr ⟨s, j, b, f', rfl, hb, hf, hsite, hfault⟩
    · rintro (⟨f', h, -⟩ | ⟨s', j, b, f', h, hb, hf, hsite, hfault⟩)
      · cases h
      · obtain rfl := Except.ok.inj h
        exact ⟨b, j, hb, f', hf, hsite, hfault⟩

/-- **Exactly the faults of the sites are found.** -/
theorem mem_findings_iff {ds : List ListedDocument} {site : Site} {f : Fault} :
    (site, f) ∈ findings 0 ds ↔ f.FoundAt ds site := by
  simp only [findings, findingsOfDocument, List.mem_flatMap, Prod.exists,
    List.mem_zipIdx_iff_getElem?, mem_findingsOfSection_iff]
  constructor
  · rintro ⟨d, titles, n, hd, title, i, ht, ⟨f', hf, rfl, rfl⟩ |
      ⟨s, j, b, f', hs, hb, hf, rfl, rfl⟩⟩
    · exact .missing hd ht hf
    · exact .faulty hd ht hs hb hf
  · rintro (⟨hd, ht, hf⟩ | ⟨hd, ht, hs, hb, hf⟩)
    · exact ⟨_, _, _, hd, _, _, ht, .inl ⟨_, hf, rfl, rfl⟩⟩
    · exact ⟨_, _, _, hd, _, _, ht, .inr ⟨_, _, _, _, hs, hb, hf, rfl, rfl⟩⟩

/-- Numbering counts up. -/
theorem pairwise_zipIdx_lt {α : Type} (as : List α) (n : Nat) :
    (as.zipIdx n).Pairwise fun a b => a.2 < b.2 := by
  have hnumbers : ((as.zipIdx n).map Prod.snd).Pairwise (· < ·) := by
    rw [List.zipIdx_map_snd]
    exact List.pairwise_lt_range'
  exact List.pairwise_map.1 hnumbers

/-- A finding of a section is in that section of that document. -/
theorem site_of_mem_findingsOfSection {n i : Nat} {d : Document} {title : Text}
    {x : Site × Fault} (h : x ∈ findingsOfSection n d i title) :
    x.1.document = n ∧ x.1.listed = i := by
  rcases mem_findingsOfSection_iff.1 h with ⟨_, -, hsite, -⟩ | ⟨_, _, _, _, -, -, -, hsite, -⟩ <;>
    simp [hsite]

theorem pairwise_findingsOfSection (n : Nat) (d : Document) (i : Nat) (title : Text) :
    (findingsOfSection n d i title).Pairwise fun a b => a.1.Before b.1 := by
  unfold findingsOfSection
  split
  · exact List.pairwise_singleton _ _
  · refine List.Pairwise.filterMap _ (fun a a' hlt x hx x' hx' => ?_) (pairwise_zipIdx_lt _ 0)
    obtain ⟨_, -, hsite, -⟩ := findingOfBlock?_eq_some_iff.1 hx
    obtain ⟨_, -, hsite', -⟩ := findingOfBlock?_eq_some_iff.1 hx'
    rw [hsite, hsite']
    exact .inr ⟨rfl, .inr ⟨rfl, hlt⟩⟩

theorem pairwise_findingsOfDocument (n : Nat) (d : ListedDocument) :
    (findingsOfDocument n d).Pairwise fun a b => a.1.Before b.1 := by
  refine List.pairwise_flatMap.2 ⟨fun title _ => pairwise_findingsOfSection _ _ _ _,
    (pairwise_zipIdx_lt _ 0).imp fun hlt x hx y hy => ?_⟩
  obtain ⟨hn, hi⟩ := site_of_mem_findingsOfSection hx
  obtain ⟨hn', hi'⟩ := site_of_mem_findingsOfSection hy
  exact .inr ⟨hn.trans hn'.symm, .inl (by omega)⟩

/-- **The way through the sites is in order.** -/
theorem pairwise_findings (n : Nat) (ds : List ListedDocument) :
    (findings n ds).Pairwise fun a b => a.1.Before b.1 := by
  have hdocument : ∀ k d x, x ∈ findingsOfDocument k d → x.1.document = k := by
    intro k d x hx
    obtain ⟨title, -, hx⟩ := List.mem_flatMap.1 hx
    exact (site_of_mem_findingsOfSection hx).1
  refine List.pairwise_flatMap.2 ⟨fun d _ => pairwise_findingsOfDocument _ _,
    (pairwise_zipIdx_lt ds n).imp fun hlt x hx y hy => ?_⟩
  have hn := hdocument _ _ x hx
  have hn' := hdocument _ _ y hy
  exact .inl (by omega)

end Preflight

namespace Desk.Within

variable {m : Type → Type} {ps : Std.Do.PostShape} [Monad m] [Std.Do.WPMonad m ps] {F : Frame ps}
  {k : Desk m} {W : Surroundings}

/-- The preflight adds the documents that can be read. -/
theorem yields_preflight_addAll (h : k.Within F W) (es : List DocumentEntry) (p : Preflight) :
    F.Yields (k.preflight es p) (· = p.addAll (DocumentEntry.readable W.files es)) := by
  induction es generalizing p with
  | nil => exact Frame.yields_pure rfl
  | cons e es ih =>
    refine (h.bench.yields_readDocument e.path).bind fun x hx => ?_
    subst hx
    cases hfile : W.files e.path with
    | error cause =>
      have hreadable : DocumentEntry.readable W.files (e :: es) =
          DocumentEntry.readable W.files es := List.filterMap_cons_none (by rw [hfile])
      rw [hreadable]
      exact (h.print _).bind fun _ _ _ => ih p
    | ok source =>
      have hreadable : DocumentEntry.readable W.files (e :: es) =
          (Document.ofText e.path source, e.sections) :: DocumentEntry.readable W.files es :=
        List.filterMap_cons_some (by rw [hfile])
      rw [hreadable]
      exact ih _

/-- **Every fault of a preflight points at the text that it is about.**  The files are the documents
that can be read, in order.  The faults are those of the sites, in the order of the sites; each has
the number of its document and points there at the text that it is about.  So every label of its
diagnostic can be shown. -/
theorem preflight_points (h : k.Within F W) (es : List DocumentEntry) :
    F.Yields (k.preflight es .empty) fun p =>
      let ds := DocumentEntry.readable W.files es
      p.files = ds.map (fun d => (d.1.name, d.1.source)) ∧
      (∃ found : List (Site × Fault), p.faults = found.map Prod.snd ∧
        found.Pairwise (fun a b => a.1.Before b.1) ∧
        (∀ site f, (site, f) ∈ found ↔ f.FoundAt ds site) ∧
        ∀ site f, (site, f) ∈ found → f.fileId = site.document ∧
          ∃ d title, ds[site.document]? = some d ∧ d.2[site.listed]? = some title ∧
            f.PointsAt d.1 title site.block) ∧
      ∀ f ∈ p.faults, ∀ label ∈ f.toDiagnostic.labels, label.IsShown p.files := by
  refine (h.yields_preflight_addAll es .empty).mono fun p hp => ?_
  intro ds
  have hfiles : p.files = ds.map fun d => (d.1.name, d.1.source) := by
    rw [hp, Preflight.files_addAll]
    rfl
  have hfaults : p.faults = (Preflight.findings 0 ds).map Prod.snd := by
    rw [hp, Preflight.faults_addAll]
    rfl
  refine ⟨hfiles, ⟨_, hfaults, Preflight.pairwise_findings 0 ds,
    fun _ _ => Preflight.mem_findings_iff,
    fun _ _ hmem => (Preflight.mem_findings_iff.1 hmem).pointsAt⟩, fun f hf label hlabel => ?_⟩
  rw [hfaults] at hf
  obtain ⟨⟨site, f'⟩, hfound, rfl⟩ := List.mem_map.1 hf
  obtain ⟨hid, d, title, hd, -, hpoints⟩ := (Preflight.mem_findings_iff.1 hfound).pointsAt
  obtain ⟨t, ht⟩ := hpoints.exists_holds
  obtain rfl := List.mem_singleton.1 hlabel
  refine ⟨d.1.name, d.1.source, ?_, ht.start_le_stop, ht.stop_le, t, ht.slice⟩
  rw [hfiles, List.getElem?_map]
  show (ds[f'.fileId]?).map _ = _
  rw [hid, hd, Option.map_some]

/-- A document that cannot be read takes no number: the one after it is the first.  It has a mark at
its start, a section that is not there, a block with two separators, the second of which has blanks
and a carriage return at its end, and a block without code. -/
theorem preflight_points_unreadable :
    let source : Text :=
      "= Ü\n  é\n\n  #### output:\n  #### output:  \r\nx\n  #### output:\n  1\n".toList
    let a : Path := .ofText "a".toList
    let b : Path := .ofText "b".toList
    let w : Bench Id := ⟨.ofText "lib".toList,
      fun path => if path = a then .error .notFound else .ok ('\ufeff' :: source), fun _ => .ok []⟩
    let es : List DocumentEntry := [⟨a, ["Ü".toList]⟩, ⟨b, ["Z".toList, "Ü".toList]⟩]
    let p := (w.desk.preflight es .empty).run
    p.files = [("b".toList, source)] ∧
      p.faults.map (fun f => (f.kind, f.fileId, Text.slice? source f.span.start f.span.stop)) =
        [(.sectionNotFound, 0, some []), (.ambiguousBlock, 0, some "  #### output:  ".toList),
          (.emptyCode, 0, some "  #### output:\n  1\n".toList)] ∧
      ∀ f ∈ p.faults, ∀ label ∈ f.toDiagnostic.labels, label.IsShown p.files := by
  intro source a b w es p
  have hpoints := Frame.yields_trivial_iff.1 (preflight_points w.within_desk es)
  exact ⟨by decide +kernel, by decide +kernel, hpoints.2.2⟩

end Desk.Within
end Doctest
