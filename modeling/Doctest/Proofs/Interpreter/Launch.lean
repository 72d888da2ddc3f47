/-
# What running a program calls

| | calls |
| --- | --- |
| `run` | `spawn`, then those that tend the child |
| `capture` | `spawn`, then those that tend the child |

A child is *tended* by giving it input, waiting for it, looking at it, killing it, taking its output
and letting time pass.  So a program is started once, with the executable that was asked for, and no
file or variable is looked at on the way (`Child.launches_run`, `Child.launches_capture`).  Nor is
any failure on the way that of an interpreter that is not there.
-/

import Doctest.Interpreter.Child
import Doctest.Proofs.Interpreter.Search

namespace Doctest

/-- Whether the call tends a child that has been started. -/
def Host.Call.isTending : Host.Call → Bool
  | .feed .. | .wait .. | .poll .. | .kill _ | .collect .. | .now _ | .pause _ => true
  | _ => false

/-- Whoever tends a child looks at nothing else. -/
theorem Host.Call.isLookup_of_isTending {c : Host.Call} (h : c.isTending = true) :
    c.isLookup = false := by
  cases c <;> first | rfl | cases h

/-- The result is not the failure to find an interpreter. -/
def RunError.Other {α : Type} (r : Except RunError α) : Prop :=
  ∀ program origin, r ≠ .error (.interpreterNotFound program origin)

namespace Child

open Traced

variable {σ : Type} {h : Host (StateM σ)} {α : Type}

/-- The child is tended, and what fails is something else than finding an interpreter. -/
abbrev Tends (x : ExceptT Halt (Traced Host.Call σ) (Except RunError α)) : Prop :=
  KeepsOk (Host.Call.isTending · = true) RunError.Other x

theorem keeps_reap (p : Pid) :
    Keeps (Host.Call.isTending · = true) (fun _ => True) (reap h.recorded p) :=
  (keeps_event fun _ => by rfl).bind fun _ _ => (keeps_event fun _ => by rfl).bind fun _ _ =>
    keeps_pure trivial

/-- **Whatever the looks at a child say**, it is only tended. -/
theorem keeps_watch (p : Pid) (command : Text) (limit : Duration) (deadline now : Nat) :
    Keeps (Host.Call.isTending · = true) RunError.Other
      (watch h.recorded p command limit deadline now) := by
  induction hleft : deadline - now using Nat.strongRecOn generalizing now with
  | ind left ih =>
    rw [watch]
    refine (keeps_event fun _ => by rfl).bind fun ⟨status, took⟩ _ => ?_
    cases status with
    | error e => exact keeps_pure nofun
    | ok ended =>
      cases ended with
      | some status => exact keeps_pure nofun
      | none =>
        dsimp only
        split
        · exact keeps_pure nofun
        · -- A pause takes time, however short it is, so less is left for the next look.
          refine (keeps_event fun _ => by rfl).bind fun late _ => ih _ ?_ _ rfl
          simp only [pollInterval]
          omega

theorem tends_await (p : Pid) (command : Text) (limit? : Option Duration) :
    Tends (await h.recorded p command limit?) := by
  unfold await
  cases limit? with
  | none =>
    refine (Keeps.lift (keeps_event fun _ => by rfl)).bind fun status _ => ?_
    split
    · exact keepsOk_pure nofun
    · exact keepsOk_pure nofun
  | some limit =>
    refine (Keeps.lift (keeps_event fun _ => by rfl)).bind fun start _ => ?_
    split
    · exact Keeps.lift (keeps_watch p command limit _ start)
    · exact keepsOk_throw _

theorem keeps_feed (p : Pid) (input? : Option Text) :
    Keeps (Host.Call.isTending · = true) (fun _ => True) (feed h.recorded p input?) := by
  unfold feed
  cases input? with
  | none => exact keeps_pure trivial
  | some input =>
    refine (keeps_event fun _ => by rfl).bind fun answer _ => ?_
    split
    · exact keeps_pure trivial
    · exact keeps_pure trivial

theorem tends_converse (p : Pid) (command : Text) (input? : Option Text)
    (limit? : Option Duration) : Tends (converse h.recorded p command input? limit?) := by
  refine (Keeps.lift (keeps_feed p input?)).bind fun fed _ => ?_
  cases fed with
  | error e => exact keepsOk_pure nofun
  | ok _ => exact tends_await p command limit?

/-- A guarded child is tended. -/
theorem Tends.guarded (p : Pid)
    {act : ExceptT Halt (Traced Host.Call σ) (Except RunError ExitStatus)}
    (hact : Tends act) : Tends (guarded h.recorded p act) := by
  refine Keeps.bind hact fun r hr => ?_
  split
  · exact keeps_pure hr
  · exact (keeps_reap p).bind fun _ _ => keeps_pure hr

theorem other_output (c : Collected) : RunError.Other (output c) := by
  cases c <;> exact nofun

/-- The action starts the executable before all else, and then tends the child. -/
def Launches (executable : Path) (x : ExceptT Halt (Traced Host.Call σ) (Except RunError α)) :
    Prop :=
  ∀ s, ∃ launch answer rest, (x.run.run s).events = .spawn launch answer :: rest ∧
    launch.executable = executable ∧ (∀ c ∈ rest, c.isTending = true) ∧
    ∀ r, (x.run.run s).value = .ok r → RunError.Other r

/-- A child that is only tended is the one that was started first. -/
theorem launches_bind (launch : Launch)
    {next : Except IoError Pid → ExceptT Halt (Traced Host.Call σ) (Except RunError α)}
    (hnext : ∀ answer, Tends (next answer)) :
    Launches launch.executable ((liftM (h.recorded.spawn launch) : ExceptT _ _ _) >>= next) :=
  fun s => by
    obtain ⟨hevents, hvalue⟩ := hnext ((h.spawn launch).run s).1 ((h.spawn launch).run s).2
    exact ⟨launch, _, _, rfl, rfl, hevents, hvalue⟩

/-- **A run in the foreground starts the executable**, once. -/
theorem launches_run (executable : Path) (arguments : List Bytes) (limit? : Option Duration) :
    Launches executable (run h.recorded executable arguments limit?) := by
  refine launches_bind ⟨executable, arguments, .inherited, false⟩ fun answer => ?_
  cases answer with
  | error e => exact keepsOk_pure nofun
  | ok p =>
    refine ((tends_await p _ limit?).guarded p).bind fun result hresult => ?_
    cases result with
    | error e =>
      exact keepsOk_pure fun program origin he => hresult program origin (by cases he; rfl)
    | ok status =>
      dsimp only
      split
      · exact keepsOk_pure nofun
      · exact keepsOk_pure nofun

/-- **A run for its output starts the executable**, once. -/
theorem launches_capture (executable : Path) (arguments : List Bytes) (input? : Option Text)
    (limit? : Option Duration) :
    Launches executable (capture h.recorded executable arguments input? limit?) := by
  refine launches_bind ⟨executable, arguments, _, true⟩ fun answer => ?_
  cases answer with
  | error e => exact keepsOk_pure nofun
  | ok p =>
    refine ((tends_converse p _ input? limit?).guarded p).bind fun result hresult => ?_
    cases result with
    | error e =>
      exact keepsOk_pure fun program origin he => hresult program origin (by cases he; rfl)
    | ok status =>
      exact (Keeps.lift (keeps_event fun _ => by rfl)).bind fun c _ => keepsOk_pure (other_output c)

end Child
end Doctest
