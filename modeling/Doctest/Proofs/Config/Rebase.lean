/-
# Settings seen from their file

| path | as it is written | seen from the directory of the file |
| --- | --- | --- |
| of the library or a document | from the root | the same |
| of the library or a document | any other | the directory and then the path |
| of the interpreter | from the root, or of one component | the same |
| of the interpreter | any other | the directory and then the path |

Nothing else in the settings changes, and nothing at all if the file has no directory part.

Settings are *anchored* if each of their paths is from the root, but for the bare name of an
interpreter.  Such settings are the same seen from any directory (`Config.Anchored.rebase`), and
what they name does not depend on the working directory (`Config.Anchored.steady`).  Seen from a
directory that is from the root, all settings are anchored (`Config.anchored_rebase`).
-/

import Doctest.Config
import Doctest.Proofs.Interpreter.Outlook
import Doctest.Proofs.Path
import Mathlib.Data.List.Forall2

namespace Doctest

/-- The same system in another working directory: the variables are the same, and so is every file
that is named from the root. -/
structure Outlook.Elsewhere (v v' : Outlook) : Prop where
  environment? : v'.environment? = v.environment?
  isFile : ∀ p, Path.isAbsolute p = true → v'.isFile p = v.isFile p

namespace Config

/-- What stays of settings: all but the paths, and those paths that need no directory. -/
structure Keeps (c c' : Config) : Prop where
  style : c'.style = c.style
  timeoutSecs : c'.timeoutSecs = c.timeoutSecs
  lib : Option.Rel (fun p p' => p.isAbsolute = true → p' = p) c.lib c'.lib
  interpreterPath : Option.Rel (fun p p' => p.isAbsolute = true ∨ p.isCompound = false → p' = p)
    c.interpreterPath c'.interpreterPath
  documents : List.Forall₂
    (fun d d' => d'.sections = d.sections ∧ (d.path.isAbsolute = true → d'.path = d.path))
    c.documents c'.documents

/-- Every path of the settings is from the root, but for the bare name of an interpreter. -/
structure Anchored (c : Config) : Prop where
  lib : ∀ p, c.lib = some p → p.isAbsolute = true
  interpreterPath : ∀ p, c.interpreterPath = some p → p.isAbsolute = true ∨ p.isCompound = false
  documents : ∀ d ∈ c.documents, d.path.isAbsolute = true

/-- What the settings name does not depend on the working directory, unless it is the bare name of
an interpreter. -/
structure Steady (c : Config) : Prop where
  lib : ∀ p, c.lib = some p → ∀ cwd cwd', Path.absolute? cwd p = Path.absolute? cwd' p
  documents : ∀ d ∈ c.documents, ∀ cwd cwd', Path.absolute? cwd d.path = Path.absolute? cwd' d.path
  executable : ∀ p, c.interpreterPath = some p → p.isCompound = true → ∀ v v' : Outlook,
    v.Elsewhere v' → v'.executable? p = v.executable? p

variable {c : Config} {base p : Path}

/-! ## Paths -/

theorem rebasePath_of_isAbsolute (hp : p.isAbsolute = true) : rebasePath base p = p := if_pos hp

/-- **Seen from a directory that is from the root, every path is from the root.** -/
theorem isAbsolute_rebasePath (hbase : base.isAbsolute = true) :
    (rebasePath base p).isAbsolute = true := by
  unfold rebasePath
  split
  · assumption
  · exact Path.isAbsolute_join hbase p

theorem rebaseProgram_of_stays (hp : p.isAbsolute = true ∨ p.isCompound = false) :
    rebaseProgram base p = p := by
  rcases hp with hp | hp
  · rw [rebaseProgram, rebasePath_of_isAbsolute hp, ite_self]
  · rw [rebaseProgram, hp, if_neg Bool.false_ne_true]

theorem stays_rebaseProgram (hbase : base.isAbsolute = true) :
    (rebaseProgram base p).isAbsolute = true ∨ (rebaseProgram base p).isCompound = false := by
  unfold rebaseProgram
  split
  · exact .inl (isAbsolute_rebasePath hbase)
  · exact .inr (by simpa using ‹¬ p.isCompound = true›)

/-! ## Settings -/

/-- **What is anchored is the same seen from any directory.** -/
theorem Anchored.rebase (h : c.Anchored) (base : Path) : c.rebase base = c := by
  have hlib : c.lib.map (rebasePath base) = c.lib := by
    cases hc : c.lib with
    | none => rfl
    | some p => rw [Option.map_some, rebasePath_of_isAbsolute (h.lib p hc)]
  have hprogram : c.interpreterPath.map (rebaseProgram base) = c.interpreterPath := by
    cases hc : c.interpreterPath with
    | none => rfl
    | some p => rw [Option.map_some, rebaseProgram_of_stays (h.interpreterPath p hc)]
  have hdocuments :
      (c.documents.map fun d => { d with path := rebasePath base d.path }) = c.documents := by
    have hsame : ∀ d ∈ c.documents, { d with path := rebasePath base d.path } = d := fun d hd => by
      rw [rebasePath_of_isAbsolute (h.documents d hd)]
    rw [List.map_congr_left hsame, List.map_id']
  rw [Config.rebase, hlib, hprogram, hdocuments, ite_self]

/-- **What is anchored does not depend on the working directory.** -/
theorem Anchored.steady (h : c.Anchored) : c.Steady where
  lib p hp := Path.absolute?_of_isAbsolute (h.lib p hp)
  documents d hd := Path.absolute?_of_isAbsolute (h.documents d hd)
  executable p hp hcompound v v' helse := by
    have hroot : p.isAbsolute = true := (h.interpreterPath p hp).resolve_right (by simp [hcompound])
    rw [Outlook.executable?, Outlook.executable?, if_pos hcompound, if_pos hcompound,
      helse.isFile p hroot, Path.absolute?_of_isAbsolute hroot v'.workingDirectory]

/-- **Seen from a directory that is from the root, settings are anchored.** -/
theorem anchored_rebase (hbase : base.isAbsolute = true) : (c.rebase base).Anchored := by
  have hne : base ≠ [] := by
    rintro rfl
    cases hbase
  rw [Config.rebase, if_neg hne]
  constructor
  · intro p hp
    obtain ⟨q, -, rfl⟩ := Option.map_eq_some_iff.1 hp
    exact isAbsolute_rebasePath hbase
  · intro p hp
    obtain ⟨q, -, rfl⟩ := Option.map_eq_some_iff.1 hp
    exact stays_rebaseProgram hbase
  · intro d hd
    obtain ⟨e, -, rfl⟩ := List.mem_map.1 hd
    exact isAbsolute_rebasePath hbase

theorem Keeps.refl (c : Config) : c.Keeps c where
  style := rfl
  timeoutSecs := rfl
  lib := by cases c.lib <;> constructor; exact fun _ => rfl
  interpreterPath := by cases c.interpreterPath <;> constructor; exact fun _ => rfl
  documents := List.forall₂_same.2 fun _ _ => ⟨rfl, fun _ => rfl⟩

/-- **What needs no directory stays**, in the order in which it is written. -/
theorem keeps_rebase (c : Config) (base : Path) : c.Keeps (c.rebase base) := by
  unfold Config.rebase
  split
  · exact Keeps.refl c
  · refine ⟨rfl, rfl, ?_, ?_, ?_⟩
    · cases c.lib with
      | none => exact .none
      | some p => exact .some rebasePath_of_isAbsolute
    · cases c.interpreterPath with
      | none => exact .none
      | some p => exact .some rebaseProgram_of_stays
    · exact List.forall₂_map_right_iff.2 (List.forall₂_same.2 fun d _ =>
        ⟨rfl, rebasePath_of_isAbsolute⟩)

/-- **Settings seen from their file** keep everything but the paths that need a directory, and are
the same if the file has no directory part, which is so if it has one component at most.  Seen from
a file that is named from the root they are anchored, so that they do not depend on the working
directory and are the same seen from there once more. -/
theorem rebaseTo_anchors (c : Config) (file : Path) :
    c.Keeps (c.rebaseTo file) ∧
    (file.isCompound = false ↔ ∀ base, file.parent? = some base → base = []) ∧
    (file.isCompound = false → c.rebaseTo file = c) ∧
    ∀ base, file.isAbsolute = true → file.parent? = some base →
      (c.rebaseTo file).Anchored ∧ (c.rebaseTo file).Steady ∧
      (c.rebaseTo file).rebase base = c.rebaseTo file := by
  refine ⟨?_, Path.isCompound_eq_false_iff file, fun hbare => ?_, fun base hroot hparent => ?_⟩
  · unfold rebaseTo
    split
    · exact keeps_rebase c _
    · exact Keeps.refl c
  · unfold rebaseTo
    split
    · rename_i base hparent
      exact if_pos ((Path.isCompound_eq_false_iff file).1 hbare base hparent)
    · rfl
  · have hanchored : (c.rebaseTo file).Anchored := by
      rw [rebaseTo, hparent]
      exact anchored_rebase (Path.isAbsolute_of_parent? hroot hparent)
    exact ⟨hanchored, hanchored.steady, hanchored.rebase base⟩

/-- Settings with a relative library, a relative interpreter and a document of each kind. -/
def mixed : Config where
  lib := some (.ofText "lib".toList)
  style := .unit
  interpreterPath := some (.ofText "bin/ruby".toList)
  timeoutSecs := some 5
  documents :=
    [⟨.ofText "README.rdoc".toList, ["Use".toList]⟩, ⟨.ofText "/doc/a.rdoc".toList, []⟩]

theorem rebaseTo_anchors_mixed :
    let file : Path := .ofText "/p/docmark.toml".toList
    let bare : Path := .ofText "docmark.toml".toList
    mixed.rebaseTo file = { mixed with
      lib := some (.ofText "/p/lib".toList)
      interpreterPath := some (.ofText "/p/bin/ruby".toList)
      documents :=
        [⟨.ofText "/p/README.rdoc".toList, ["Use".toList]⟩, ⟨.ofText "/doc/a.rdoc".toList, []⟩] } ∧
    mixed.rebaseTo bare = mixed ∧ (mixed.rebaseTo file).Steady ∧
    (mixed.rebaseTo file).rebase (.ofText "/p".toList) = mixed.rebaseTo file := by
  intro file bare
  obtain ⟨-, -, -, hseen⟩ := rebaseTo_anchors mixed file
  obtain ⟨-, -, hbare, -⟩ := rebaseTo_anchors mixed bare
  obtain ⟨-, hsteady, hagain⟩ := hseen (.ofText "/p".toList) (by decide) (by decide)
  exact ⟨by decide +kernel, hbare (by decide), hsteady, hagain⟩

end Config
end Doctest
