/-
# Which executable a program string names

What a search looks at is the working directory, the variables and the files: an *outlook*.  On a
host that shows an outlook a search comes to what the outlook says, and to nothing else:

| program | is a file | found |
| --- | --- | --- |
| of several components | yes | its absolute form, whatever `PATH` is |
| of several components | no | nothing |
| any other | in an entry of `PATH` | the absolute form of what the first such entry has |
| any other | in no entry | nothing |

An empty entry is the working directory.  A program string is decided
(`Outlook.decides_executable?`): one thing is found, it is a path from the root if it is a path, and
another outlook with the same files finds the same, if its entries are the same up to one that has
the program.

A program string is searched for as the path that it writes.  A configured path that is a bare name
is searched for as it is shown (`Path.sought`), which is as it is if it is a text.
-/

import Doctest.Proofs.Interpreter.Uses
import Doctest.Proofs.Text.Utf8

namespace Doctest

/-- What is searched for under a configured path. -/
def Path.sought (p : Path) : Path := if p.isCompound then p else .ofText p.display

theorem Path.sought_ofText (t : Text) : (ofText t).sought = ofText t := by
  rw [sought, display_ofText, ite_self]

/-- What a search looks at.  The working directory is a path through names, a relative path is one
from there, and the empty path names no file. -/
structure Outlook where
  names : List Bytes
  environment? : Text → Option Bytes
  isFile : Path → Bool
  isName : ∀ n ∈ names, Path.IsName n
  nothing : isFile [] = false
  relative : ∀ p, Path.isAbsolute p = false → isFile p = isFile ((Path.ofNames names).join p)

namespace Outlook

variable (v : Outlook) (program : Path)

/-- The working directory. -/
def workingDirectory : Path := Path.ofNames v.names

/-- The variable that lists the directories to search. -/
def searchVariable : Text := "PATH".toList

/-- The entries of the search list; there are none if the variable is not set. -/
def entries : List Path := ((v.environment? searchVariable).map Path.searchList).getD []

/-- The directory that an entry stands for. -/
def place (entry : Path) : Path := if entry = [] then v.workingDirectory else entry

/-- The path of the program in the directory of an entry. -/
def candidate (entry : Path) : Path := (v.place entry).join program

/-- The program is a regular file there. -/
def Holds (entry : Path) : Prop := v.isFile (v.candidate program entry) = true

instance : DecidablePred (v.Holds program) := fun _ => inferInstanceAs (Decidable (_ = true))

/-- The executable that a program string names, or that there is none. -/
inductive Finds : Option Path → Prop
  | file {p : Path} : Path.isCompound program = true → v.isFile program = true →
      Path.absolute? v.workingDirectory program = some p → Finds (some p)
  | noFile : Path.isCompound program = true → v.isFile program = false → Finds none
  | entry {before after : List Path} {entry p : Path} : Path.isCompound program = false →
      v.entries = before ++ entry :: after → (∀ e ∈ before, ¬ v.Holds program e) →
      v.Holds program entry →
      Path.absolute? v.workingDirectory (v.candidate program entry) = some p → Finds (some p)
  | noEntry : Path.isCompound program = false → (∀ e ∈ v.entries, ¬ v.Holds program e) → Finds none

variable {v program}

/-- A search for the program cannot tell the outlooks apart: the working directory and the files are
the same, and for a bare name so are the entries, up to one that has it or all of them. -/
structure Agrees (v v' : Outlook) (program : Path) : Prop where
  names : v'.names = v.names
  isFile : v'.isFile = v.isFile
  entries : Path.isCompound program = false → ∃ tried after after', v.entries = tried ++ after ∧
    v'.entries = tried ++ after' ∧ ((∃ e ∈ tried, v.Holds program e) ∨ after' = after)

/-- What is found for a program string is settled. -/
structure Decides (v : Outlook) (program : Path) (found : Option Path) : Prop where
  finds : v.Finds program found
  only : ∀ found', v.Finds program found' → found' = found
  isAbsolute : ∀ p, found = some p → p.isAbsolute = true
  elsewhere : ∀ v', v.Agrees v' program → v'.Finds program found

/-! ## The executable as a value -/

/-- The executable that a program string names. -/
def executable? (v : Outlook) (program : Path) : Option Path :=
  if Path.isCompound program then
    if v.isFile program then Path.absolute? v.workingDirectory program else none
  else (v.entries.find? (v.Holds program ·)).bind fun e =>
    Path.absolute? v.workingDirectory (v.candidate program e)

/-- A file has an absolute form. -/
theorem exists_absolute? {p : Path} (h : v.isFile p = true) :
    ∃ q, Path.absolute? v.workingDirectory p = some q := by
  have hne : p ≠ [] := by
    rintro rfl
    rw [v.nothing] at h
    cases h
  rw [Path.absolute?, if_neg hne]
  exact ⟨_, rfl⟩

theorem finds_executable? (v : Outlook) (program : Path) :
    v.Finds program (v.executable? program) := by
  unfold executable?
  cases hcompound : Path.isCompound program with
  | true =>
    rw [if_pos rfl]
    cases hfile : v.isFile program with
    | true =>
      obtain ⟨p, hp⟩ := exists_absolute? hfile
      rw [if_pos rfl, hp]
      exact .file hcompound hfile hp
    | false =>
      rw [if_neg Bool.false_ne_true]
      exact .noFile hcompound hfile
  | false =>
    rw [if_neg Bool.false_ne_true]
    cases hfind : v.entries.find? (v.Holds program ·) with
    | none =>
      refine .noEntry hcompound fun e he => ?_
      simpa using List.find?_eq_none.1 hfind e he
    | some e =>
      obtain ⟨hholds, before, after, hentries, hbefore⟩ := List.find?_eq_some_iff_append.1 hfind
      have hholds : v.Holds program e := of_decide_eq_true hholds
      obtain ⟨p, hp⟩ := exists_absolute? hholds
      rw [Option.bind_some, hp]
      exact .entry hcompound hentries (fun e he => by simpa using hbefore e he) hholds hp

/-- **One thing is found**, an executable or that there is none. -/
theorem finds_iff {found : Option Path} :
    v.Finds program found ↔ found = v.executable? program := by
  constructor
  · intro h
    unfold executable?
    cases h with
    | file hcompound hfile hp => rw [if_pos hcompound, if_pos hfile, hp]
    | noFile hcompound hfile => rw [if_pos hcompound, hfile, if_neg Bool.false_ne_true]
    | @entry before after e p hcompound hentries hbefore hholds hp =>
      have hfind : v.entries.find? (v.Holds program ·) = some e :=
        List.find?_eq_some_iff_append.2 ⟨decide_eq_true hholds, before, after, hentries,
          fun e he => by simpa using hbefore e he⟩
      rw [hcompound, if_neg Bool.false_ne_true, hfind, Option.bind_some, hp]
    | noEntry hcompound hnone =>
      have hfind : v.entries.find? (v.Holds program ·) = none :=
        List.find?_eq_none.2 fun e he => by simpa using hnone e he
      rw [hcompound, if_neg Bool.false_ne_true, hfind]
      rfl
  · rintro rfl
    exact v.finds_executable? program

/-- **Entries after one that has the program do not matter.** -/
theorem Agrees.executable? {v' : Outlook} (h : v.Agrees v' program) :
    v'.executable? program = v.executable? program := by
  have hplace : v'.workingDirectory = v.workingDirectory := by
    rw [workingDirectory, h.names, workingDirectory]
  have hcandidate : v'.candidate program = v.candidate program := by
    funext e
    rw [candidate, place, hplace, candidate, place]
  have hholds : (fun e => decide (v'.Holds program e)) = fun e => decide (v.Holds program e) := by
    funext e
    exact decide_eq_decide.2 (by rw [Holds, Holds, h.isFile, hcandidate])
  unfold Outlook.executable?
  rw [h.isFile, hplace, hcandidate, hholds]
  cases hcompound : Path.isCompound program with
  | true => rfl
  | false =>
    obtain ⟨tried, after, after', hv, hv', hsame⟩ := h.entries hcompound
    have hfind : v'.entries.find? (v.Holds program ·) = v.entries.find? (v.Holds program ·) := by
      rw [hv, hv']
      rcases hsame with ⟨e, he, hhit⟩ | rfl
      · have hsome : (tried.find? (v.Holds program ·)).isSome = true :=
          List.find?_isSome.2 ⟨e, he, decide_eq_true hhit⟩
        rw [List.find?_append, List.find?_append, Option.or_of_isSome hsome,
          Option.or_of_isSome hsome]
      · rfl
    rw [hfind]

theorem isAbsolute_executable? {p : Path} (h : v.executable? program = some p) :
    p.isAbsolute = true := by
  have hroot : Path.isAbsolute v.workingDirectory = true := rfl
  unfold executable? at h
  split at h
  · split at h
    · exact Path.isAbsolute_of_absolute? (fun _ => hroot) h
    · cases h
  · obtain ⟨e, -, he⟩ := Option.bind_eq_some_iff.1 h
    exact Path.isAbsolute_of_absolute? (fun _ => hroot) he

/-- **Every program string is decided.** -/
theorem decides_executable? (v : Outlook) (program : Path) :
    v.Decides program (v.executable? program) where
  finds := v.finds_executable? program
  only _ h := finds_iff.1 h
  isAbsolute _ h := isAbsolute_executable? h
  elsewhere _ h := finds_iff.2 h.executable?.symm

/-! ## What a search comes to -/

/-- An empty entry is looked into as the working directory is. -/
theorem isFile_join (v : Outlook) (program entry : Path) :
    v.isFile (entry.join program) = v.isFile (v.candidate program entry) := by
  unfold candidate place
  split
  · rename_i hentry
    subst hentry
    cases hprogram : program.isAbsolute with
    | true => rw [Path.join, Path.join, hprogram, if_pos rfl, if_pos rfl]
    | false =>
      have hjoin : Path.join [] program = program := by
        rw [Path.join, hprogram, if_neg Bool.false_ne_true]
        rfl
      rw [hjoin, v.relative program hprogram, workingDirectory]
  · rfl

/-- What is found under an empty entry is what is found in the working directory. -/
theorem absolute?_join (v : Outlook) {program entry : Path}
    (h : v.isFile (entry.join program) = true) :
    Path.absolute? v.workingDirectory (entry.join program) =
      Path.absolute? v.workingDirectory (v.candidate program entry) := by
  unfold candidate place
  split
  · rename_i hentry
    subst hentry
    have hjoin : Path.join [] program = program := by
      rw [Path.join]
      split <;> rfl
    rw [hjoin] at h ⊢
    have hne : program ≠ [] := by
      rintro rfl
      rw [v.nothing] at h
      cases h
    exact (Path.absolute?_join v.isName hne).symm
  · rfl

end Outlook

namespace Host

variable {σ : Type}

/-- In the state the host shows the outlook, and looking at it changes nothing.  It is one on which
programs do not differ from other files by their names. -/
structure Shows (h : Host (StateM σ)) (s : σ) (v : Outlook) : Prop where
  byEnding : h.byEnding = false
  workingDirectory : h.workingDirectory.run s = (.ok v.workingDirectory, s)
  environment? : ∀ name, (h.environment? name).run s = (v.environment? name, s)
  isFile : ∀ p, (h.isFile p).run s = (v.isFile p, s)

/-- The next action starts where the first one has ended. -/
theorem run_bind_of_run {α β : Type} {x : StateM σ α} {f : α → StateM σ β} {s s' : σ} {a : α}
    (hx : x.run s = (a, s')) : (x >>= f).run s = (f a).run s' := by
  rw [StateT.run_bind, hx]
  rfl

namespace Shows

variable {h : Host (StateM σ)} {s : σ} {v : Outlook}

theorem run_absolute? (hv : h.Shows s v) (p : Path) :
    (h.absolute? p).run s = (Path.absolute? v.workingDirectory p, s) := by
  rw [Host.absolute?]
  cases hp : p.isAbsolute with
  | true =>
    rw [if_pos rfl, Path.absolute?_of_isAbsolute hp [] v.workingDirectory]
    rfl
  | false =>
    rw [if_neg Bool.false_ne_true, run_bind_of_run hv.workingDirectory]
    rfl

theorem run_firstFile? (hv : h.Shows s v) (ps : List Path) :
    (h.firstFile? ps).run s = (ps.find? v.isFile, s) := by
  induction ps with
  | nil => rfl
  | cons p ps ih =>
    rw [firstFile?, run_bind_of_run (hv.isFile p), List.find?_cons]
    cases v.isFile p with
    | true => rfl
    | false => exact ih

theorem run_resolveFile (hv : h.Shows s v) (p : Path) :
    (h.resolveFile p).run s =
      (if v.isFile p then Path.absolute? v.workingDirectory p else none, s) := by
  rw [resolveFile, run_bind_of_run (hv.isFile p)]
  cases v.isFile p with
  | true => exact hv.run_absolute? p
  | false => rfl

theorem run_searchPath (hv : h.Shows s v) (program : Path) :
    (h.searchPath program).run s =
      ((v.entries.find? (v.Holds program ·)).bind fun e =>
        Path.absolute? v.workingDirectory (v.candidate program e), s) := by
  rw [searchPath, run_bind_of_run (hv.environment? _), Outlook.entries, Outlook.searchVariable]
  cases v.environment? "PATH".toList with
  | none => rfl
  | some list =>
    have hholds : (v.isFile ∘ (Path.join · program)) = fun e => decide (v.Holds program e) := by
      funext e
      rw [Function.comp_apply, v.isFile_join program e]
      exact Bool.decide_eq_true.symm
    dsimp only [Option.map_some, Option.getD_some]
    rw [run_bind_of_run (hv.run_firstFile? _), List.find?_map, hholds]
    cases hfind : (Path.searchList list).find? (v.Holds program ·) with
    | none => rfl
    | some e =>
      have hhit := List.find?_some hfind
      have hfile : v.isFile (Path.join e program) = true := by
        rw [v.isFile_join program e]
        exact of_decide_eq_true hhit
      rw [Option.bind_some, ← v.absolute?_join hfile]
      exact hv.run_absolute? _

/-- **A search comes to what the outlook says.** -/
theorem run_resolve (hv : h.Shows s v) (program : Text) :
    (h.resolve program).run s = (v.executable? (.ofText program), s) := by
  have hfile : Path.programFile h.byEnding program = program := by
    rw [hv.byEnding]
    rfl
  rw [resolve, hfile, Outlook.executable?]
  cases (Path.ofText program).isCompound with
  | true => exact hv.run_resolveFile _
  | false => exact hv.run_searchPath _

/-- A configured path is searched for as a program string is. -/
theorem run_resolveConfigured (hv : h.Shows s v) (p : Path) :
    (h.resolveConfigured p).run s = (v.executable? p.sought, s) := by
  rw [resolveConfigured, Path.sought]
  split
  · rename_i hcompound
    rw [hv.run_resolveFile, Outlook.executable?, if_pos hcompound]
  · exact hv.run_resolve p.display

end Shows
end Host

namespace Interpreter

variable {σ : Type}

/-- In the state the interpreter comes to the executable: it answers it, or that there is none, and
knows that from then on. -/
def Locates (i : Interpreter (StateM σ)) (s : σ) (found : Option Path) : Prop :=
  (StateT.run Session.locate i).run.run s = (.ok (i.located found, i.settle found), s)

/-- It comes to what is fetched. -/
theorem locates_of_fetch {i : Interpreter (StateM σ)} {s : σ} {found : Option Path}
    (h : i.executable.fetch.run s = (found, s)) : i.Locates s found := by
  have hfetch : StateT.run (liftM i.executable.fetch : ExceptT Halt (StateM σ) _).run s =
      (.ok found, s) := by
    change StateT.run (i.executable.fetch >>= fun a => pure (Except.ok a)) s = _
    rw [Host.run_bind_of_run h]
    rfl
  unfold Locates Session.locate
  simp only [Session.call, Memo.get_eq, bind_pure_comp, liftM_map, bind_map_left, StateT.run_bind,
    StateT.run_get, StateT.run_monadLift, monadLift_self, StateT.run_set, pure_bind,
    ExceptT.run_bind, hfetch]
  cases found <;> rfl

/-- It comes to one thing only. -/
theorem Locates.eq {i : Interpreter (StateM σ)} {s : σ} {found found' : Option Path}
    (h : i.Locates s found) (h' : i.Locates s found') : found = found' := by
  have hpair := congrArg Prod.fst (h.symm.trans h')
  have hsettled := congrArg Prod.snd (Except.ok.inj hpair)
  have hvalue := congrArg (fun i : Interpreter (StateM σ) => i.executable.value) hsettled
  exact Option.some.inj hvalue

end Interpreter

/-! ## Outlooks of some files -/

namespace Outlook

/-- The outlook of some files, named from the root, in a working directory.  What ends in a
separator is no file. -/
def ofFiles (names : List Bytes) (environment? : Text → Option Bytes) (files : List Path)
    (isName : ∀ n ∈ names, Path.IsName n) : Outlook where
  names := names
  environment? := environment?
  isFile p := p.getLast? ≠ some Path.slash &&
    (Path.absolute? (Path.ofNames names) p).any (files.contains ·)
  isName := isName
  nothing := rfl
  relative p hp := by
    by_cases hne : p = []
    · rw [hne, Path.getLast?_join_nil isName]
      rfl
    · rw [Path.getLast?_join_ofNames isName hp hne, Path.absolute?_join isName hne]

/-- A host that shows what its state is, and where nothing else comes of anything. -/
def host : Host (StateM Outlook) where
  byEnding := false
  workingDirectory := return .ok (← get).workingDirectory
  environment? name := return (← get).environment? name
  isFile p := return (← get).isFile p
  readText _ := pure (.error .notFound)
  createScratch := pure (.error .notFound)
  writeScratch _ _ := pure (.ok ())
  removeScratch _ := pure ()
  spawn _ := pure (.error .notFound)
  feed _ _ := pure (.ok ())
  wait _ := pure (.ok (.exited 0))
  poll _ := pure ⟨.ok none, 0⟩
  kill _ := pure ()
  collect _ := pure (.bytes [])
  now := pure 0
  pause := pure 0
  print _ _ := pure ()
  trace _ := pure ⟨0, [], []⟩

/-- Every outlook is shown by a host. -/
theorem shows_host (v : Outlook) : host.Shows v v := ⟨rfl, rfl, fun _ => rfl, fun _ => rfl⟩

end Outlook
end Doctest
