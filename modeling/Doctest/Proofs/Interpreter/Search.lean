/-
# What the search for an executable looks at

| search | looks at |
| --- | --- |
| a path of several components | whether it is a file, the working directory |
| a bare name | `PATH`, whether the name is a file in its entries, the working directory |

So the search does nothing but look, whatever there is (`Host.seeks_resolve`,
`Host.seeks_resolveConfigured`), and a path that it finds is one from the root if the working
directory is, where it is needed.
-/

import Doctest.Interpreter.Resolve
import Doctest.Proofs.Host.Recorded
import Doctest.Proofs.Path

namespace Doctest

/-- Whether the call looks at what is there: at the working directory, at a variable or at a
file. -/
def Host.Call.isLookup : Host.Call → Bool
  | .workingDirectory _ | .environment .. | .isFile .. => true
  | _ => false

namespace Host

open Traced

variable {σ : Type} {h : Host (StateM σ)}

/-- What the host calls its working directory, if there is one, is a path from the root. -/
def Rooted (h : Host (StateM σ)) : Prop :=
  ∀ s cwd, (h.workingDirectory.run s).1 = .ok cwd → cwd.isAbsolute = true

/-- The action looks at what is there and does nothing else, and a path that it finds is one from
the root, if the working directory is. -/
abbrev Seeks (h : Host (StateM σ)) (search : Traced Call σ (Option Path)) : Prop :=
  Keeps (Call.isLookup · = true)
    (fun found => h.Rooted → ∀ p, found = some p → p.isAbsolute = true) search

theorem seeks_nothing : h.Seeks (pure none) := keeps_pure fun _ _ hp => by cases hp

theorem seeks_absolute? (p : Path) : h.Seeks (h.recorded.absolute? p) := by
  have hcwd : Keeps (Call.isLookup · = true)
      (fun answer => h.Rooted → ∀ cwd, answer = .ok cwd → cwd.isAbsolute = true)
      h.recorded.workingDirectory := fun s =>
    ⟨List.forall_mem_singleton.2 rfl, fun hrooted => hrooted s⟩
  unfold absolute?
  split
  · rename_i hp
    refine keeps_pure fun _ q hq => Path.isAbsolute_of_absolute? (fun hrelative => ?_) hq
    rw [hp] at hrelative
    cases hrelative
  · refine hcwd.bind fun answer hanswer => ?_
    cases answer with
    | error e => exact seeks_nothing
    | ok cwd =>
      exact keeps_pure fun hrooted q hq =>
        Path.isAbsolute_of_absolute? (fun _ => hanswer hrooted cwd rfl) hq

theorem keeps_firstFile? (ps : List Path) :
    Keeps (Call.isLookup · = true) (fun _ => True) (h.recorded.firstFile? ps) := by
  induction ps with
  | nil => exact keeps_pure trivial
  | cons p ps ih =>
    refine (keeps_event fun _ => by rfl).bind fun there _ => ?_
    split
    · exact keeps_pure trivial
    · exact ih

theorem seeks_resolveFile (p : Path) : h.Seeks (h.recorded.resolveFile p) := by
  refine (keeps_event fun _ => by rfl).bind fun there _ => ?_
  split
  · exact seeks_absolute? p
  · exact seeks_nothing

theorem seeks_searchPath (file : Path) : h.Seeks (h.recorded.searchPath file) := by
  refine (keeps_event fun _ => by rfl).bind fun list? _ => ?_
  cases list? with
  | none => exact seeks_nothing
  | some list =>
    refine (keeps_firstFile? _).bind fun found _ => ?_
    cases found with
    | none => exact seeks_nothing
    | some p => exact seeks_absolute? p

theorem seeks_resolve (program : Text) : h.Seeks (h.recorded.resolve program) := by
  unfold resolve
  dsimp only
  split
  · exact seeks_resolveFile _
  · exact seeks_searchPath _

/-- **Configuring an executable only looks at what is there.** -/
theorem seeks_resolveConfigured (p : Path) : h.Seeks (h.recorded.resolveConfigured p) := by
  unfold resolveConfigured
  split
  · exact seeks_resolveFile p
  · exact seeks_resolve p.display

end Host
end Doctest
