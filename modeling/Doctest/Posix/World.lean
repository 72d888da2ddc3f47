/-
# A machine with the program on it

A new machine has its programs in the usual places, an empty working directory, a clock that has
been running for an hour, and one process.  That process has its two outputs in sinks, and it comes
to its end before anybody looks at these.
-/

import Doctest.Posix.Shell.Evaluation

namespace Doctest

namespace Machine

/-- The directories that every machine has; the last one tells about the program's own process. -/
def directories : List Place :=
  List.map (List.map String.toList) [["bin"], ["dev"], ["tmp"], ["usr"], ["usr", "bin"], ["proc"],
    ["proc", "5"]]

/-- The devices that every machine has. -/
def devices : List (Place × Node) := [
  (["dev".toList, "null".toList], .device .null), (["dev".toList, "zero".toList], .device .zero),
  (["dev".toList, "stdin".toList], .device (.stream 0)),
  (["dev".toList, "stdout".toList], .device (.stream 1)),
  (["dev".toList, "stderr".toList], .device (.stream 2))]

/-- The files of a machine on which nothing has happened. -/
def initialFiles : Files where
  entries :=
    directories.map (·, .directory) ++ devices ++
      [(["proc".toList, "5".toList, "exe".toList], .program "docmark".toList)] ++
      Tool.programNames.map (fun n => (["usr".toList, "bin".toList, n], .program n)) ++
      Tool.programNames.map (fun n => (["bin".toList, n], .program n))

/-- The nanoseconds that a new machine has been running. -/
def uptime : Nat := 3600000000000

/-- The sink that everything goes to that is printed on an output. -/
def sinkOf : Channel → Nat
  | .out => 0
  | .err => 1

/-- The number of the program's process. -/
def ownPid : Nat := 5

/-- The program's process, which ignores it when nobody reads what it writes. -/
def ownProcess (cwd : Place) (environment : List (Text × Bytes)) : ShellState :=
  { ShellState.idle with
    name := "docmark".toList
    bindings := environment.map fun (n, v) =>
      (Octets.ofText n, ⟨some (Octets.ofBytes v), true, false⟩)
    cwd := cwd
    streams := [(0, 0), (1, 1), (2, 2)]
    traps := [(Run.pipeSignal, [])]
    pid := ownPid
    mainPid := ownPid
    parent := 1 }

/-- A machine with an empty working directory. -/
def start (cwd : Path) (environment : List (Text × Bytes)) : Machine :=
  let place := Files.placeOf [] (Octets.ofBytes cwd)
  { files := (initialFiles.insertParents place).insert place .directory
    streams := [(0, ⟨.null, 0, false⟩), (1, ⟨.sink (sinkOf .out), 0, false⟩),
      (2, ⟨.sink (sinkOf .err), 0, false⟩)]
    pipes := []
    sinks := []
    nextNumber := 3
    others := []
    ended := []
    signals := []
    nextPid := 4000
    now := uptime
    horizon := 0
    shell := ownProcess place environment }

/-- The machine with something put at a path; the directories on the way are made. -/
def put (m : Machine) (path : Path) (n : Node) : Machine :=
  let place := Files.placeOf m.shell.cwd (Octets.ofBytes path)
  { m with files := (m.files.insertParents place).insert place n }

/-! ## The program on the machine -/

/-- Bounds the turns of processes and the commands of one of them. -/
def fuel : Nat := 1000000000

/-- A time before which everything happens that can happen. -/
def lastTime : Nat := Tool.never - 1

/-- The machine when a program has run on it: its process has come to its end, and so has every
other one that could write to the two outputs. -/
def complete (m : Machine) (act : Run Nat) : Machine :=
  let tasks : List Task := [⟨ownPid, .at_ m.now, act.toStep⟩]
  let start : Schedule :=
    ⟨{ m with shell := .idle, others := [(ownPid, m.shell)] }, tasks⟩
  (start.run lastTime (fun m => !m.feeds (sinkOf .out) && !m.feeds (sinkOf .err)) fuel).machine

/-- The exit code of the program. -/
def code (m : Machine) : Nat := ((m.ended.lookup ownPid).map Run.codeOf).getD 0

/-- What was printed on an output. -/
def printed (m : Machine) (channel : Channel) : Octets := m.poured (sinkOf channel)

/-- The machine as the host of the program. -/
def host : Host Run := Resident.host ⟨Shell.exec fuel⟩

end Machine

end Doctest
