/-
# Where the program of the command line comes from

| source | asked for | looked for |
| --- | --- | --- |
| `--ruby` | first | when the interpreter is built |
| settings | second | when the interpreter is built |
| `DOCMARK_RUBY`, unless empty | third | when it is first needed |
| the name `ruby` | last | when it is first needed |

The first source that is there names the program, and it alone decides: the executable is the one
that its program string names, or there is none, whatever the sources after it say
(`Program.executable_decided`).  A configured bare name is the program string that it is shown as.
-/

import Doctest.CommandLine.Program
import Doctest.Proofs.Interpreter.Outlook

namespace Doctest

variable {σ : Type} {h : Host (StateM σ)} {s : σ} {v : Outlook}

namespace Interpreter

/-- What the environment variable names, unless that is empty. -/
def ofVariable? (v : Outlook) : Option Path := (v.environment? programVariable).filter (· ≠ [])

theorem locates_named (hv : h.Shows s v) (program : Text) :
    (named h program).Locates s (v.executable? (.ofText program)) :=
  locates_of_fetch (hv.run_resolve program)

/-- The name of the default program, as a path. -/
def defaultPath : Path := .ofText defaultProgram

/-- The default interpreter looks for what the variable named when it was built, or for the default
name. -/
theorem run_ruby (hv : h.Shows s v) :
    ∃ i, (ruby h).run s = (i, s) ∧ i.executable.value = none ∧
      ∀ s' v', h.Shows s' v' → i.executable.supplier.run s' =
        (v'.executable? ((ofVariable? v).getD defaultPath).sought, s') := by
  have hdefault : defaultPath.sought = .ofText defaultProgram := Path.sought_ofText _
  rw [ruby, Host.run_bind_of_run (hv.environment? _), ofVariable?]
  rcases v.environment? programVariable with _ | _ | ⟨c, path⟩
  · exact ⟨_, rfl, rfl, fun _ _ hv' => hdefault ▸ hv'.run_resolve defaultProgram⟩
  · exact ⟨_, rfl, rfl, fun _ _ hv' => hdefault ▸ hv'.run_resolve defaultProgram⟩
  · exact ⟨_, rfl, rfl, fun _ _ hv' => hv'.run_resolveConfigured (c :: path)⟩

end Interpreter

namespace Program

open Interpreter

variable {o : Options} {c : Config}

/-- The sources of the program, in the order in which they are asked. -/
def sources (o : Options) (c : Config) (v : Outlook) : List (Option Path) :=
  [o.ruby, c.interpreterPath, ofVariable? v, some defaultPath]

/-- The program of the first source that is there. -/
def firstProgram (o : Options) (c : Config) (v : Outlook) : Path :=
  ((o.ruby <|> c.interpreterPath) <|> ofVariable? v).getD defaultPath

theorem findSome?_sources (o : Options) (c : Config) (v : Outlook) :
    (sources o c v).findSome? id = some (firstProgram o c v) := by
  unfold sources firstProgram
  cases o.ruby with
  | some path => rfl
  | none =>
    cases c.interpreterPath with
    | some path => rfl
    | none => cases ofVariable? v <;> rfl

/-- It is the one that comes after sources that are not there. -/
theorem firstProgram_eq {program : Path} {before after : List (Option Path)}
    (hsources : sources o c v = before ++ some program :: after)
    (hbefore : ∀ x ∈ before, x = none) :
    firstProgram o c v = program := by
  have hnone : before.findSome? id = none := List.findSome?_eq_none_iff.2 hbefore
  have hfind := findSome?_sources o c v
  rw [hsources, List.findSome?_append, hnone] at hfind
  exact (Option.some.inj hfind).symm

/-- Whether the program is looked for when the interpreter is built. -/
def isConfigured (o : Options) (c : Config) : Bool := (o.ruby <|> c.interpreterPath).isSome

/-- **The interpreter comes to what the program of the first source names**, as it is when the
program is looked for. -/
theorem run_interpreter (hv : h.Shows s v) (o : Options) (c : Config) :
    ∃ i, (interpreter h o c).run s = (i, s) ∧ ∀ s' v', h.Shows s' v' →
      i.Locates s'
        ((if isConfigured o c then v else v').executable? (firstProgram o c v).sought) := by
  obtain ⟨default, hrun, hvalue, hsupplier⟩ := run_ruby hv
  rw [interpreter, Host.run_bind_of_run hrun, isConfigured, firstProgram]
  cases o.ruby <|> c.interpreterPath with
  | some path =>
    have hconfigured : (withExecutable h default path).run s =
        ({ default with
            origin := path.display
            executable := default.executable.set (v.executable? path.sought) }, s) := by
      rw [withExecutable, Host.run_bind_of_run (hv.run_resolveConfigured path)]
      rfl
    exact ⟨_, Host.run_bind_of_run hconfigured, fun _ _ _ => locates_of_fetch rfl⟩
  | none =>
    refine ⟨_, rfl, fun s' v' hv' => locates_of_fetch ?_⟩
    exact (congrArg (StateT.run · s') (Memo.fetch_of_none hvalue)).trans (hsupplier s' v' hv')

/-- **One source decides which executable is run.**  Whatever the host shows, a program string names
one executable or none, and it is what an interpreter of that name comes to.  The interpreter of the
command line comes to what the program of the first source names that is there, as it is when the
program is looked for, also if that is nothing.  So other sources after that one, other entries
after the first that has the program, and any `PATH` at all for a program of several components,
leave it what it is. -/
theorem executable_decided (hv : h.Shows s v) :
    (∀ program, ∃ found, v.Decides (.ofText program) found ∧ (named h program).Locates s found) ∧
      (∀ o c before program after, sources o c v = before ++ some program :: after →
        (∀ x ∈ before, x = none) → ∃ i, (interpreter h o c).run s = (i, s) ∧
          ∀ s' v', h.Shows s' v' → ∃ found,
            (if isConfigured o c then v else v').Decides program.sought found ∧
              i.Locates s' found) ∧
      ∀ o c o' c' s' v' before program after after', h.Shows s' v' → v.Agrees v' program.sought →
        sources o c v = before ++ some program :: after →
        sources o' c' v' = before ++ some program :: after' → (∀ x ∈ before, x = none) →
        ∃ i i' found, (interpreter h o c).run s = (i, s) ∧ (interpreter h o' c').run s' = (i', s') ∧
          v.Decides program.sought found ∧ i.Locates s found ∧ i'.Locates s' found := by
  refine ⟨fun program => ⟨_, v.decides_executable? _, locates_named hv program⟩, ?_, ?_⟩
  · intro o c before program after hsources hbefore
    obtain ⟨i, hrun, hlocates⟩ := run_interpreter hv o c
    rw [firstProgram_eq hsources hbefore] at hlocates
    exact ⟨i, hrun, fun s' v' hv' => ⟨_, Outlook.decides_executable? _ _, hlocates s' v' hv'⟩⟩
  · intro o c o' c' s' v' before program after after' hv' hagrees hsources hsources' hbefore
    obtain ⟨i, hrun, hlocates⟩ := run_interpreter hv o c
    obtain ⟨i', hrun', hlocates'⟩ := run_interpreter hv' o' c'
    have hi := hlocates s v hv
    have hi' := hlocates' s' v' hv'
    rw [firstProgram_eq hsources hbefore, ite_self] at hi
    rw [firstProgram_eq hsources' hbefore, ite_self, hagrees.executable?] at hi'
    exact ⟨i, i', _, hrun, hrun', v.decides_executable? _, hi, hi'⟩

/-- The directory `/w`, with a search list that has an entry without the program, an empty one, a
relative one and one more, and a variable that names a program. -/
def sampleOutlook : Outlook := .ofFiles [Path.ofText "w".toList]
  (fun name => if name = Outlook.searchVariable then some (Path.ofText "/a::bin:/b".toList)
    else if name = programVariable then some (Path.ofText "/b/ruby".toList) else none)
  [.ofText "/w/ruby".toList, .ofText "/w/bin/ruby".toList, .ofText "/b/ruby".toList]
  (List.forall_mem_singleton.2 ⟨by decide, rfl, by decide⟩)

/-- A program that is not there is not replaced by the one that the variable names. -/
theorem executable_decided_missing :
    let v := sampleOutlook
    let o : Options := ⟨false, none, none, none, none⟩
    let missing : Path := .ofText "missing".toList
    let c : Config := ⟨none, .spec, some missing, none, []⟩
    Outlook.host.Shows v v ∧
      (named Outlook.host "ruby".toList).Locates v (some (.ofText "/w/ruby".toList)) ∧
      (named Outlook.host "./bin//ruby".toList).Locates v (some (.ofText "/w/bin/ruby".toList)) ∧
      sources o c v =
        [none] ++ some missing :: [some (.ofText "/b/ruby".toList), some defaultPath] ∧
      ∃ i, (interpreter Outlook.host o c).run v = (i, v) ∧ i.Locates v none := by
  intro v o missing c
  have hv : Outlook.host.Shows v v := v.shows_host
  obtain ⟨hnamed, hsource, -⟩ := executable_decided hv
  obtain ⟨found, hdecides, hruby⟩ := hnamed "ruby".toList
  obtain rfl : found = some (.ofText "/w/ruby".toList) :=
    (Outlook.finds_iff.1 hdecides.finds).trans (by decide +kernel)
  obtain ⟨found, hdecides, hbin⟩ := hnamed "./bin//ruby".toList
  obtain rfl : found = some (.ofText "/w/bin/ruby".toList) :=
    (Outlook.finds_iff.1 hdecides.finds).trans (by decide +kernel)
  have hsources : sources o c v =
      [none] ++ some missing :: [some (.ofText "/b/ruby".toList), some defaultPath] := by
    decide +kernel
  obtain ⟨i, hrun, hlocates⟩ := hsource o c _ _ _ hsources (List.forall_mem_singleton.2 rfl)
  obtain ⟨found, hdecides, hmissing⟩ := hlocates v v hv
  obtain rfl : found = none := (Outlook.finds_iff.1 hdecides.finds).trans (by decide +kernel)
  exact ⟨hv, hruby, hbin, hsources, i, hrun, hmissing⟩

end Program
end Doctest
