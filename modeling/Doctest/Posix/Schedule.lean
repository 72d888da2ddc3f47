/-
# Processes that take turns

Of the processes that have something to do the one has its turn whose time is the earliest, and of
these the one that has waited the longest.  It goes on until its clock has passed the time of
another process, until it has to wait, or for a short while.

A signal that comes to a process ends it, is noted, or is ignored, as the process has asked for; one
number ends every process.
-/

import Doctest.Posix.Run

namespace Doctest

/-- A process that is not running: what it waits for and how it goes on. -/
structure Task where
  pid : Nat
  wake : Wake
  go : Machine → Step

/-- The machine and the processes on it. -/
structure Schedule where
  machine : Machine
  tasks : List Task

namespace Schedule

/-! ## Signals -/

/-- The signals that do nothing to a process that does not ask for them. -/
def harmless : List Nat := [0, 17, 18, 19, 20, 21, 22, 23, 28]

/-- The number of the signal that ends every process. -/
def killSignal : Nat := 9

/-- The schedule without a process that has ended. -/
def finish (s : Schedule) (pid : Nat) (status : ExitStatus) : Schedule :=
  let others := s.machine.others.filter (·.1 ≠ pid)
  let machine := { s.machine with others := others, ended := (pid, status) :: s.machine.ended }
  ⟨machine.collect, s.tasks.filter (·.pid ≠ pid)⟩

/-- A signal comes to a process. -/
def deliver (s : Schedule) (pid signal : Nat) : Schedule :=
  match s.machine.others.lookup pid with
  | none => s
  | some shell =>
    match (if signal = killSignal then none else shell.traps.lookup signal) with
    | none => if harmless.contains signal then s else s.finish pid (.signaled signal)
    | some [] => s
    | some _ =>
      let noted := { shell with pending := shell.pending ++ [signal] }
      let others := s.machine.others.map fun p => if p.1 = pid then (pid, noted) else p
      { s with machine := { s.machine with others := others } }

/-- All signals under way come. -/
def deliverAll (s : Schedule) : Schedule :=
  s.machine.signals.foldl (fun s (pid, signal) => s.deliver pid signal)
    { s with machine := { s.machine with signals := [] } }

/-! ## Turns -/

/-- When a process that waits can go on, as far as that is known. -/
def due? (m : Machine) (t : Task) : Option Nat :=
  match t.wake with
  | .at_ time => some (max time m.now)
  | .readable i => if m.canRead i then some m.now else none
  | .writable i => if m.canWrite i then some m.now else none
  | .unfed sink => if m.feeds sink then none else some m.now
  | .ended child interruptible =>
    let interrupted := interruptible && (m.others.lookup t.pid).any (·.pending ≠ [])
    if (m.ended.lookup child).isSome || interrupted then some m.now else none

/-- The task whose turn it is and its time. -/
def next? (s : Schedule) : Option (Task × Nat) :=
  s.tasks.foldl (fun best? t =>
    match due? s.machine t, best? with
    | none, _ => best?
    | some time, none => some (t, time)
    | some time, some (_, least) => if time < least then some (t, time) else best?) none

/-- Nanoseconds after which a process pauses in any case. -/
def slice : Nat := 40000

/-- Nanoseconds after which a new process does its first step. -/
def birthTime : Nat := 90000

/-- The time up to which a process may go on, when the others wait as they do. -/
def horizon (tasks : List Task) (start limit : Nat) : Nat :=
  tasks.foldl (fun h t => match t.wake with
    | .at_ time => min h time
    | _ => h) (min limit (start + slice))

/-- Puts the process that was running among the others, with what is to be done next. -/
def park (s : Schedule) (pid : Nat) (m : Machine) (tasks : List Task) : Schedule :=
  ⟨{ m with others := (pid, m.shell) :: m.others, shell := .idle }, s.tasks ++ tasks⟩

/-- What has become of a process after its turn. -/
def absorb (s : Schedule) (pid : Nat) : Step → Schedule
  | .ended status m => finish { s with machine := { m with shell := .idle } } pid status
  | .paused wake m go => s.park pid m [⟨pid, wake, go⟩]
  | .forked child body m go =>
    let now := m.now + Run.forkTime
    s.park pid m [⟨pid, .at_ now, go⟩, ⟨child, .at_ (now + birthTime), body⟩]

/-- One turn, if there is one up to a time. -/
def turn? (s : Schedule) (limit : Nat) : Option Schedule :=
  let s := if s.machine.signals = [] then s else s.deliverAll
  match s.next? with
  | none => none
  | some (t, time) =>
    if limit < time then none
    else
      let tasks := s.tasks.filter (·.pid ≠ t.pid)
      let m := s.machine
      let m := { m with
        shell := (m.others.lookup t.pid).getD .idle
        others := m.others.filter (·.1 ≠ t.pid)
        now := time
        horizon := horizon tasks time limit }
      some (absorb ⟨m, tasks⟩ t.pid (t.go m))

/-- Turns up to a time, until something holds of the machine; `fuel` bounds their number. -/
def run (limit : Nat) (stop : Machine → Bool) : Nat → Schedule → Schedule
  | 0, s => s
  | fuel + 1, s =>
    if stop s.machine then s
    else match s.turn? limit with
      | none => s
      | some s => run limit stop fuel s

end Schedule
end Doctest
