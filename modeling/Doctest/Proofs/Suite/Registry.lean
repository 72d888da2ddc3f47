/-
# The names that a registry hands out

Sections are registered one at a time or as the suites of documents.  However the two are mixed, the
registry hands out one name for each pair of a document and a section, when the pair is first listed
(`names_of_uses`):

| pair | base name | gets |
| --- | --- | --- |
| listed before | any | no name |
| new | free | the base name |
| new | taken | the base name with the least free number from 2 on |

A pair names its document as that is shown.  A document whose path encodes a text is shown as that
text (`Path.display_ofText`), so such documents are told apart; others may share their pairs.

A registration adds to what is there and changes nothing of it, so all of this is kept by one
registration (`Records.register`) and from there by any number of uses (`Records.after`).
-/

import Doctest.Suite.Cases
import Mathlib.Data.List.Perm.Subperm
import Mathlib.Data.List.Nodup

namespace Doctest

/-! ## Free names -/

namespace Suite

/-- A character that names of tests are made of. -/
def IsNameChar (c : Char) : Prop := isAlphanumeric c = true ∨ c = '_'

/-- A name of a test: `test_`, then ASCII letters, digits and underscores. -/
def IsTestName (name : Text) : Prop :=
  ∃ rest, name = "test_".toList ++ rest ∧ ∀ c ∈ rest, IsNameChar c

theorem isNameChar_identifier {t : Text} : ∀ c ∈ identifier t, IsNameChar c := by
  intro c hc
  obtain ⟨d, -, rfl⟩ := List.mem_map.1 hc
  by_cases hd : isAlphanumeric d = true
  · exact .inl (by rwa [if_pos hd])
  · exact .inr (by rw [if_neg hd])

theorem isTestName_testName (document title : Text) : IsTestName (testName document title) := by
  refine ⟨identifier document ++ ['_'] ++ identifier title, ?_, fun c hc => ?_⟩
  · rw [← List.append_assoc, ← List.append_assoc]
    rfl
  · simp only [List.mem_append, List.mem_singleton] at hc
    rcases hc with (hc | rfl) | hc
    · exact isNameChar_identifier c hc
    · exact .inr rfl
    · exact isNameChar_identifier c hc

end Suite

/-- A case as a registry knows it: its document as that is shown, and its section. -/
def SectionCase.shown (c : SectionCase) : Text × Text := (c.document.display, c.title)

namespace Registry

open Suite (IsTestName IsNameChar testName)

/-- Different counts make different names. -/
theorem numbered_injective (base : Text) : Function.Injective (numbered base) := by
  intro i j h
  have hdigits : Nat.toDigits 10 i = Nat.toDigits 10 j := List.append_cancel_left h
  have hread := congrArg (fun cs => Nat.ofDigitChars 10 cs 0) hdigits
  simpa using hread

/-- A count makes a name longer. -/
theorem numbered_ne (base : Text) (k : Nat) : numbered base k ≠ base := by
  intro h
  have hlength := congrArg List.length h
  simp only [numbered, List.length_append, List.length_singleton] at hlength
  omega

/-- A digit is a letter or digit of ASCII. -/
theorem isNameChar_of_isDigit {c : Char} (h : c.isDigit = true) : IsNameChar c := by
  left
  simp only [Char.isDigit, Bool.and_eq_true, decide_eq_true_eq] at h
  simp only [Suite.isAlphanumeric, Bool.or_eq_true, Bool.and_eq_true, decide_eq_true_eq]
  exact .inr h

theorem isTestName_numbered {base : Text} (h : IsTestName base) (k : Nat) :
    IsTestName (numbered base k) := by
  obtain ⟨rest, rfl, hrest⟩ := h
  refine ⟨rest ++ ['_'] ++ Text.ofNat k, by simp [numbered], fun c hc => ?_⟩
  simp only [List.mem_append, List.mem_singleton] at hc
  rcases hc with (hc | rfl) | hc
  · exact hrest c hc
  · exact .inr rfl
  · exact isNameChar_of_isDigit (Nat.isDigit_of_mem_toDigits (by decide) (by decide) hc)

/-- The name for a base when some names are taken: the base itself if it is free, else the base with
the least number from 2 on that makes it free.  The number is at most one more than there are taken
names. -/
inductive FirstFree (taken : List Text) (base : Text) : Text → Prop
  | base : base ∉ taken → FirstFree taken base base
  | numbered {k : Nat} : base ∈ taken → 2 ≤ k → k ≤ taken.length + 1 → numbered base k ∉ taken →
      (∀ j, 2 ≤ j → j < k → numbered base j ∈ taken) → FirstFree taken base (numbered base k)

namespace FirstFree

variable {taken : List Text} {base name : Text}

theorem not_mem (h : FirstFree taken base name) : name ∉ taken := by
  cases h with
  | base hfree => exact hfree
  | numbered _ _ _ hfree _ => exact hfree

theorem isTestName (h : FirstFree taken base name) (hbase : IsTestName base) : IsTestName name := by
  cases h with
  | base _ => exact hbase
  | numbered _ _ _ _ _ => exact isTestName_numbered hbase _

end FirstFree

/-- **The search for a number ends**: the base and its numbered names from 2 on are all different,
so one of them is free among as many as there are taken names and one more. -/
theorem exists_free {taken : List Text} {base : Text} (hbase : base ∈ taken) :
    ∃ i < taken.length, numbered base (i + 2) ∉ taken := by
  by_contra hall
  push Not at hall
  have hinj : Function.Injective fun i => numbered base (i + 2) := fun i j h => by
    have := numbered_injective base h
    omega
  have hnodup : (base :: (List.range taken.length).map fun i => numbered base (i + 2)).Nodup := by
    refine List.nodup_cons.2 ⟨fun hmem => ?_, List.nodup_range.map hinj⟩
    obtain ⟨i, -, hi⟩ := List.mem_map.1 hmem
    exact numbered_ne base _ hi
  have hsubset : (base :: (List.range taken.length).map fun i => numbered base (i + 2)) ⊆
      taken := by
    refine List.cons_subset.2 ⟨hbase, fun name hname => ?_⟩
    obtain ⟨i, hi, rfl⟩ := List.mem_map.1 hname
    exact hall i (List.mem_range.1 hi)
  have hlength := (List.subperm_of_subset hnodup hsubset).length_le
  rw [List.length_cons, List.length_map, List.length_range] at hlength
  omega

/-- **The name that is claimed for a base is its first free one.** -/
theorem firstFree_freeName (taken : List Text) (base : Text) :
    FirstFree taken base (freeName taken base) := by
  unfold freeName
  split
  · rename_i hbase
    obtain ⟨i, hi, hfree⟩ := exists_free hbase
    cases hfind : ((List.range (taken.length + 1)).map fun i => numbered base (i + 2)).find?
        (fun n => n ∉ taken) with
    | none =>
      have hmem : numbered base (i + 2) ∈
          (List.range (taken.length + 1)).map fun i => numbered base (i + 2) :=
        List.mem_map.2 ⟨i, List.mem_range.2 (by omega), rfl⟩
      have := List.find?_eq_none.1 hfind _ hmem
      simp only [decide_eq_true_eq] at this
      exact absurd hfree this
    | some name =>
      rw [List.find?_map, Option.map_eq_some_iff] at hfind
      obtain ⟨n, hn, rfl⟩ := hfind
      obtain ⟨hnfree, -, hleast⟩ := List.find?_range_eq_some.1 hn
      have htaken : ∀ j < n, numbered base (j + 2) ∈ taken := fun j hj => by simpa using hleast j hj
      have hni : n ≤ i := Nat.not_lt.1 fun hlt => hfree (htaken i hlt)
      refine .numbered hbase (by omega) (by omega) (by simpa using hnfree) fun j hj hjn => ?_
      have := htaken (j - 2) (by omega)
      rwa [Nat.sub_add_cancel hj] at this
  · exact .base ‹_›

/-! ## Uses of a registry -/


/-- A use of a registry: the registration of one section, or a suite for sections of a document. -/
inductive Use where
  | one (document title : Text)
  | suite (document : Path) (titles : List Text)

/-- The pairs that a use lists, in order.  A document is known as its path is shown. -/
def Use.pairs : Use → List (Text × Text)
  | .one document title => [(document, title)]
  | .suite document titles => titles.map (document.display, ·)

/-- The pair and the name of a test. -/
def entryOf (c : UnitCase) : (Text × Text) × Text := (c.case.shown, c.name)

/-- The names that a use hands out, each with its pair, in order. -/
def handedOut (r : Registry) : Use → List ((Text × Text) × Text)
  | .one document title => ((r.register document title).1.map ((document, title), ·)).toList
  | .suite document titles => (r.suite document titles).1.cases.map entryOf

/-- The registry after a use. -/
def use (r : Registry) : Use → Registry
  | .one document title => (r.register document title).2
  | .suite document titles => (r.suite document titles).2

/-- The names that some uses, one after the other, hand out. -/
def handedOutAll : Registry → List Use → List ((Text × Text) × Text)
  | _, [] => []
  | r, u :: us => r.handedOut u ++ (r.use u).handedOutAll us

/-- The registry after some uses. -/
def after : Registry → List Use → Registry
  | r, [] => r
  | r, u :: us => (r.use u).after us

theorem after_append (r : Registry) (us vs : List Use) :
    r.after (us ++ vs) = (r.after us).after vs := by
  induction us generalizing r with
  | nil => rfl
  | cons u us ih => exact ih _

/-! ## What is handed out is kept -/

theorem register_of_mem {r : Registry} {document title : Text} (h : (document, title) ∈ r.pairs) :
    r.register document title = (none, r) :=
  if_pos h

theorem register_of_not_mem {r : Registry} {document title : Text}
    (h : (document, title) ∉ r.pairs) :
    r.register document title = (some (freeName r.names (testName document title)),
      ⟨r.entries ++ [((document, title), freeName r.names (testName document title))]⟩) :=
  if_neg h

theorem entries_register (r : Registry) (document title : Text) :
    (r.register document title).2.entries =
      r.entries ++ ((r.register document title).1.map ((document, title), ·)).toList := by
  by_cases h : (document, title) ∈ r.pairs
  · simp [register_of_mem h]
  · simp [register_of_not_mem h]

/-- A section that gets no name changes nothing. -/
theorem registerAll_cons_of_none {r r' : Registry} {document : Path} {title : Text}
    (titles : List Text) (h : r.register document.display title = (none, r')) :
    r.registerAll document (title :: titles) = r'.registerAll document titles := by
  rw [registerAll, h]

theorem registerAll_cons_of_some {r r' : Registry} {document : Path} {title name : Text}
    (titles : List Text) (h : r.register document.display title = (some name, r')) :
    r.registerAll document (title :: titles) =
      (⟨name, ⟨document, title⟩⟩ :: (r'.registerAll document titles).1,
        (r'.registerAll document titles).2) := by
  rw [registerAll, h]

theorem entries_registerAll (r : Registry) (document : Path) (titles : List Text) :
    (r.registerAll document titles).2.entries =
      r.entries ++ (r.registerAll document titles).1.map entryOf := by
  induction titles generalizing r with
  | nil => simp [registerAll]
  | cons title titles ih =>
    have hentries := r.entries_register document.display title
    cases hr : r.register document.display title with
    | mk name? r' =>
      rw [hr] at hentries
      cases name? with
      | none =>
        rw [registerAll_cons_of_none titles hr, ih, hentries]
        simp
      | some name =>
        rw [registerAll_cons_of_some titles hr, ih, hentries]
        simp [entryOf, SectionCase.shown]

/-- What is handed out names for is listed. -/
theorem mem_of_mem_registerAll {r : Registry} {document : Path} {titles : List Text} {c : UnitCase}
    (h : c ∈ (r.registerAll document titles).1) : ∃ title ∈ titles, c.case = ⟨document, title⟩ := by
  induction titles generalizing r with
  | nil => cases h
  | cons title titles ih =>
    cases hr : r.register document.display title with
    | mk name? r' =>
      cases name? with
      | none =>
        rw [registerAll_cons_of_none titles hr] at h
        obtain ⟨t, ht, hc⟩ := ih h
        exact ⟨t, List.mem_cons_of_mem _ ht, hc⟩
      | some name =>
        rw [registerAll_cons_of_some titles hr] at h
        rcases List.mem_cons.1 h with rfl | hmem
        · exact ⟨title, List.mem_cons_self, rfl⟩
        · obtain ⟨t, ht, hc⟩ := ih hmem
          exact ⟨t, List.mem_cons_of_mem _ ht, hc⟩

/-- **A use adds what it hands out to the registry and leaves the rest as it is.** -/
theorem entries_use (r : Registry) (u : Use) : (r.use u).entries = r.entries ++ r.handedOut u := by
  cases u with
  | one document title => exact r.entries_register document title
  | suite document titles => exact r.entries_registerAll document titles

theorem entries_after (r : Registry) (us : List Use) :
    (r.after us).entries = r.entries ++ r.handedOutAll us := by
  induction us generalizing r with
  | nil => simp [after, handedOutAll]
  | cons u us ih => rw [after, handedOutAll, ih, entries_use, List.append_assoc]

/-! ## What every registry is like -/

/-- The registry holds the pairs that were listed, each once and at its first place, and each name
is the first that was free when it was handed out. -/
structure Records (r : Registry) (listed : List (Text × Text)) : Prop where
  pairs_eq : r.pairs = listed.eraseDups
  nodup_names : r.names.Nodup
  firstFree : ∀ before pair name rest, r.entries = before ++ (pair, name) :: rest →
    FirstFree (before.map Prod.snd) (testName pair.1 pair.2) name

namespace Records

variable {r : Registry} {listed : List (Text × Text)}

theorem empty : Records Registry.empty [] := ⟨rfl, .nil, by simp [Registry.empty]⟩

theorem mem_pairs_iff (h : Records r listed) {pair : Text × Text} :
    pair ∈ r.pairs ↔ pair ∈ listed := by
  rw [h.pairs_eq, List.mem_eraseDups]

/-- **One registration keeps the registry as it should be.** -/
theorem register (h : Records r listed) (document title : Text) :
    Records (r.register document title).2 (listed ++ [(document, title)]) := by
  by_cases hmem : (document, title) ∈ r.pairs
  · rw [register_of_mem hmem]
    refine ⟨?_, h.nodup_names, h.firstFree⟩
    have hlisted := h.mem_pairs_iff.1 hmem
    rw [h.pairs_eq, List.eraseDups_append]
    simp [List.removeAll, hlisted]
  · rw [register_of_not_mem hmem]
    have hfree := firstFree_freeName r.names (testName document title)
    constructor
    · have hlisted : (document, title) ∉ listed := fun hl => hmem (h.mem_pairs_iff.2 hl)
      rw [List.eraseDups_append, ← h.pairs_eq]
      simp [pairs, List.removeAll, hlisted, List.eraseDups_cons]
    · rw [names, List.map_append]
      exact List.concat_eq_append ▸ h.nodup_names.concat hfree.not_mem
    · intro before pair name rest hentries
      -- The entry is an old one, or it is the one just added.
      rcases List.eq_nil_or_concat rest with rfl | ⟨rest, last, rfl⟩
      · obtain ⟨rfl, hlast⟩ := List.append_inj' hentries rfl
        obtain ⟨rfl, rfl⟩ := Prod.mk.inj (List.cons.inj hlast).1
        exact hfree
      · rw [List.concat_eq_append, ← List.cons_append, ← List.append_assoc] at hentries
        obtain ⟨hold, -⟩ := List.append_inj' hentries rfl
        exact h.firstFree _ _ _ _ hold

theorem registerAll (h : Records r listed) (document : Path) (titles : List Text) :
    Records (r.registerAll document titles).2 (listed ++ titles.map (document.display, ·)) := by
  induction titles generalizing r listed with
  | nil => simpa [Registry.registerAll] using h
  | cons title titles ih =>
    have hone := h.register document.display title
    cases hr : r.register document.display title with
    | mk name? r' =>
      rw [hr] at hone
      have hall := ih hone
      rw [List.append_assoc, List.singleton_append] at hall
      cases name? with
      | none => rwa [registerAll_cons_of_none titles hr]
      | some name => rwa [registerAll_cons_of_some titles hr]

theorem use (h : Records r listed) (u : Use) : Records (r.use u) (listed ++ u.pairs) := by
  cases u with
  | one document title => exact h.register document title
  | suite document titles => exact h.registerAll document titles

/-- **Any number of uses keep the registry as it should be.** -/
theorem after (h : Records r listed) (us : List Use) :
    Records (r.after us) (listed ++ us.flatMap Use.pairs) := by
  induction us generalizing r listed with
  | nil => simpa [Registry.after] using h
  | cons u us ih =>
    have hrest := ih (h.use u)
    rwa [List.append_assoc] at hrest

theorem isTestName (h : Records r listed) : ∀ name ∈ r.names, IsTestName name := by
  intro name hname
  obtain ⟨⟨pair, name⟩, hentry, rfl⟩ := List.mem_map.1 hname
  obtain ⟨before, rest, hentries⟩ := List.append_of_mem hentry
  exact (h.firstFree before pair name rest hentries).isTestName (Suite.isTestName_testName _ _)

end Records

/-- An empty registry hands out names for the pairs that are listed, once each. -/
theorem pairs_handedOutAll (us : List Use) :
    (empty.handedOutAll us).map Prod.fst = (us.flatMap Use.pairs).eraseDups := by
  have hentries : (empty.after us).entries = empty.handedOutAll us := entries_after empty us
  rw [← hentries]
  exact (Records.empty.after us).pairs_eq

/-- **A registry hands out one name for each pair that is listed**, in order of first listing, and
never another one.  All names are different, they are names of tests, and each was the first free
one for its pair; what has been handed out stays, and the size counts it. -/
theorem names_of_uses (us : List Use) :
    let r := empty.after us
    let listed := us.flatMap Use.pairs
    empty.handedOutAll us = r.entries ∧ r.pairs = listed.eraseDups ∧
      (∀ document title, (document, title) ∈ listed → r.register document title = (none, r)) ∧
      (∀ document title, (document, title) ∉ listed → ∃ name,
        (r.register document title).1 = some name ∧
          FirstFree r.names (testName document title) name) ∧
      (∀ before pair name rest, r.entries = before ++ (pair, name) :: rest →
        FirstFree (before.map Prod.snd) (testName pair.1 pair.2) name) ∧
      r.names.Nodup ∧ (∀ name ∈ r.names, IsTestName name) ∧
      (∀ more, r.entries <+: (empty.after (us ++ more)).entries) ∧
      r.size = listed.eraseDups.length ∧ r.size = r.names.length := by
  intro r listed
  have h : Records r listed := Records.empty.after us
  have hsize : r.size = r.pairs.length := (List.length_map _).symm
  refine ⟨?_, h.pairs_eq, fun document title hlisted => ?_, fun document title hlisted => ?_,
    h.firstFree, h.nodup_names, h.isTestName, fun more => ?_, ?_, ?_⟩
  · exact (entries_after empty us).symm
  · exact register_of_mem (h.mem_pairs_iff.2 hlisted)
  · have hmem : (document, title) ∉ r.pairs := fun hp => hlisted (h.mem_pairs_iff.1 hp)
    rw [register_of_not_mem hmem]
    exact ⟨_, rfl, firstFree_freeName _ _⟩
  · exact ⟨r.handedOutAll more, by rw [after_append, entries_after (empty.after us)]⟩
  · rw [hsize, h.pairs_eq]
  · exact (List.length_map _).symm

/-- A name with a number may itself be taken when its base comes along. -/
example :
    (empty.handedOutAll [.one "a.rdoc".toList "x y".toList, .one "a.rdoc".toList "x-y".toList,
      .suite (.ofText "a.rdoc".toList) ["x y 2".toList, "x y".toList, "x_y".toList]]).map Prod.snd =
    ["test_a_rdoc_x_y".toList, "test_a_rdoc_x_y_2".toList, "test_a_rdoc_x_y_2_2".toList,
      "test_a_rdoc_x_y_3".toList] := by decide +kernel

end Registry
end Doctest
