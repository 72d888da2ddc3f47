/-
# The state of the machine

Processes share files, streams and pipes.  A process knows the streams that are open in it by
number; a stream is an open file, an end of a pipe, or a sink, where what is printed comes to rest.

| stream | reads | writes |
| --- | --- | --- |
| null device | nothing | are lost |
| zero device | zero bytes without end | are lost |
| file | from its place on | at its place, or at the end |
| pipe | wait for a writer | wait for a reader once the pipe is full |
| sink | nothing | are kept |

A pipe is at its end when no process has an end open that writes to it.
-/

import Doctest.Posix.Files
import Doctest.Posix.Shell.Grammar

namespace Doctest

/-- What a stream is connected to. -/
inductive Connection where
  | null
  | zero
  | file (place : Place)
  | pipe (number : Nat) (writes : Bool)
  | sink (number : Nat)
deriving DecidableEq, Repr

/-- An open stream and, for a file, the byte at which it goes on. -/
structure Stream where
  connection : Connection
  offset : Nat
  appends : Bool
deriving DecidableEq, Repr

/-- The bytes in a pipe: pieces in their order, then later pieces in reverse, and how many bytes
these are. -/
structure Pipe where
  front : List Octets
  back : List Octets
  size : Nat
deriving DecidableEq, Repr

namespace Pipe

/-- A pipe with nothing in it. -/
def empty : Pipe := ⟨[], [], 0⟩

/-- The pipe with more bytes. -/
def push (p : Pipe) (t : Octets) : Pipe := ⟨p.front, t :: p.back, p.size + t.length⟩

/-- Number of bytes from which on a pipe is full. -/
def capacity : Nat := 65536

/-- All bytes of the pipe. -/
def contents (p : Pipe) : Octets := (p.front ++ p.back.reverse).flatten

/-- The first bytes of the pipe, at most so many, and the pipe without them. -/
def take (p : Pipe) (most : Nat) : Octets × Pipe :=
  let t := p.contents
  if p.size ≤ most then (t, empty) else (t.take most, ⟨[t.drop most], [], p.size - most⟩)

/-- The pipe with bytes put back. -/
def putBack (p : Pipe) (t : Octets) : Pipe := ⟨t :: p.front, p.back, p.size + t.length⟩

end Pipe

/-- A variable of a shell. -/
structure Variable where
  value? : Option Octets
  exported : Bool
  fixed : Bool
deriving DecidableEq, Repr

/-- The state of a process, of a shell for the most part.

| field | |
| --- | --- |
| `pid`, `mainPid`, `parent` | the process, the shell that it is a part of, and what started it |
| `streams`, `held` | streams by number, and streams that it will need again |
| `traps` | what is to be done at a signal, and under 0 at the end; nothing is to ignore it |
| `pending` | the signals that came and have not been answered |
| `jobs`, `latestJob?`, `noticed` | processes in the background, and those whose end is known |
| `substituted` | the exit code of the latest substitution in the command that is being run |
| `before?` | the exit code from before the trap that is being answered |
| `letter` | where in an argument the next option is that `getopts` reads |
| `calls`, `loops` | how many functions and loops it is inside of |
-/
structure ShellState where
  name : Octets
  positional : List Octets
  bindings : List (Octets × Variable)
  functions : List (Octets × Shell.Command)
  locals : List (Octets × Option Variable)
  status : Nat
  cwd : Place
  streams : List (Nat × Nat)
  held : List Nat
  pid : Nat
  mainPid : Nat
  parent : Nat
  line : Nat
  flags : List Char
  traps : List (Nat × Octets)
  pending : List Nat
  jobs : List Nat
  noticed : List Nat
  latestJob? : Option Nat
  letter : Nat
  calls : Nat
  loops : Nat
  substituted : Nat
  before? : Option Nat
deriving DecidableEq, Repr

namespace ShellState

/-- The shell as a process that it starts sees it: only ignored signals are passed on. -/
def withoutTraps (s : ShellState) : ShellState :=
  { s with traps := s.traps.filter (·.2 = []), pending := [] }

/-- The streams that the process keeps open. -/
def openStreams (s : ShellState) : List Nat := s.streams.map Prod.snd ++ s.held

/-- Whether a trap does something. -/
def hasTraps (s : ShellState) : Bool := s.traps.any (·.2 ≠ [])

/-- The value of a variable. -/
def valueOf? (s : ShellState) (name : Octets) : Option Octets :=
  (s.bindings.lookup name).bind (·.value?)

/-- The shell with a variable changed; new variables come last. -/
def setVariable (s : ShellState) (name : Octets) (v : Variable) : ShellState :=
  if s.bindings.any (·.1 = name) then
    let bindings := s.bindings.map fun b => if b.1 = name then (name, v) else b
    { s with bindings := bindings }
  else { s with bindings := s.bindings ++ [(name, v)] }

/-- The shell with a value given to a variable, which stays exported if it was. -/
def assign (s : ShellState) (name value : Octets) : ShellState :=
  match s.bindings.lookup name with
  | some v => s.setVariable name { v with value? := some value }
  | none => s.setVariable name ⟨some value, s.flags.contains 'a', false⟩

/-- The shell without a variable. -/
def unassign (s : ShellState) (name : Octets) : ShellState :=
  { s with bindings := s.bindings.filter (·.1 ≠ name) }

/-- Makes variables visible to programs. -/
def exportAll (names : List Octets) (s : ShellState) : ShellState :=
  let bindings := s.bindings.map fun (n, v) =>
    (n, if names.contains n then { v with exported := true } else v)
  { s with bindings := bindings }

/-- Gives variables back what they were before. -/
def restoreAll (old : List (Octets × Option Variable)) (s : ShellState) : ShellState :=
  old.foldl (fun s (n, v?) => match v? with
    | some v => s.setVariable n v
    | none => s.unassign n) s

/-- A process that does nothing and has nothing open. -/
def idle : ShellState where
  name := []
  positional := []
  bindings := []
  functions := []
  locals := []
  status := 0
  cwd := []
  streams := []
  held := []
  pid := 0
  mainPid := 0
  parent := 0
  line := 0
  flags := []
  traps := []
  pending := []
  jobs := []
  noticed := []
  latestJob? := none
  letter := 0
  calls := 0
  loops := 0
  substituted := 0
  before? := none

end ShellState

/-- The state of the machine.  `shell` is the process that is running and `others` are the ones that
are not; `ended` are the processes whose end nobody has taken notice of, and `signals` the ones
under way.  The running process may go on up to the time `horizon` before others have their turn. -/
structure Machine where
  files : Files
  streams : List (Nat × Stream)
  pipes : List (Nat × Pipe)
  sinks : List (Nat × List Octets)
  nextNumber : Nat
  others : List (Nat × ShellState)
  ended : List (Nat × ExitStatus)
  signals : List (Nat × Nat)
  nextPid : Nat
  now : Nat
  horizon : Nat
  shell : ShellState

namespace Machine

/-- The stream with a number of its own. -/
def stream? (m : Machine) (i : Nat) : Option Stream := m.streams.lookup i

/-- The numbers of all streams that some process keeps open. -/
def openStreams (m : Machine) : List Nat :=
  m.shell.openStreams ++ m.others.flatMap fun s => s.2.openStreams

/-- Whether some process has an end of the pipe open that writes, or reads. -/
def hasEnd (m : Machine) (pipe : Nat) (writes : Bool) : Bool :=
  m.openStreams.any fun i =>
    (m.stream? i).any fun s => s.connection = .pipe pipe writes

/-- Whether some process can write to the sink. -/
def feeds (m : Machine) (sink : Nat) : Bool :=
  m.openStreams.any fun i => (m.stream? i).any fun s => s.connection = .sink sink

/-- The machine without the streams and pipes that no process has open. -/
def collect (m : Machine) : Machine :=
  let used := m.openStreams
  let streams := m.streams.filter fun s => used.contains s.1
  let pipes := m.pipes.filter fun p => streams.any fun s =>
    s.2.connection = .pipe p.1 true || s.2.connection = .pipe p.1 false
  { m with streams := streams, pipes := pipes }

/-- Number of streams from which on those are looked for that nobody needs. -/
def crowd : Nat := 64

/-- The machine with room for more streams. -/
def tidy (m : Machine) : Machine := if crowd ≤ m.streams.length then m.collect else m

/-- The number of one more stream, and the machine with it. -/
def addStream (m : Machine) (s : Stream) : Nat × Machine :=
  (m.nextNumber,
    { m with streams := (m.nextNumber, s) :: m.streams, nextNumber := m.nextNumber + 1 })

/-- The numbers of the streams that read from and write to one more pipe, which holds some bytes,
and the machine with it. -/
def addPipe (m : Machine) (t : Octets) : Nat × Nat × Machine :=
  let m := m.tidy
  let pipe := m.nextNumber
  let p := if t = [] then Pipe.empty else Pipe.empty.push t
  let m := { m with pipes := (pipe, p) :: m.pipes, nextNumber := pipe + 1 }
  let (i, m) := m.addStream ⟨.pipe pipe false, 0, false⟩
  let (o, m) := m.addStream ⟨.pipe pipe true, 0, false⟩
  (i, o, m)

/-- The machine with a stream changed. -/
def setStream (m : Machine) (i : Nat) (s : Stream) : Machine :=
  { m with streams := m.streams.map fun p => if p.1 = i then (i, s) else p }

/-- The machine with a pipe changed. -/
def setPipe (m : Machine) (i : Nat) (p : Pipe) : Machine :=
  { m with pipes := m.pipes.map fun q => if q.1 = i then (i, p) else q }

/-- All that a sink has been given. -/
def poured (m : Machine) (sink : Nat) : Octets := ((m.sinks.lookup sink).getD []).reverse.flatten

/-- The machine with more in a sink. -/
def pour (m : Machine) (sink : Nat) (t : Octets) : Machine :=
  let pieces := (m.sinks.lookup sink).getD []
  { m with sinks := (sink, t :: pieces) :: m.sinks.filter (·.1 ≠ sink) }

/-- The contents of a file. -/
def fileContent (m : Machine) (place : Place) : Octets :=
  match m.files.node? place with
  | some (.file content _) => content
  | _ => []

/-- Whether reading from a stream would not have to wait. -/
def canRead (m : Machine) (i : Nat) : Bool :=
  match m.stream? i with
  | some ⟨.pipe p false, _, _⟩ =>
    match m.pipes.lookup p with
    | some pipe => pipe.size ≠ 0 || !m.hasEnd p true
    | none => true
  | _ => true

/-- Whether writing to a stream would not have to wait. -/
def canWrite (m : Machine) (i : Nat) : Bool :=
  match m.stream? i with
  | some ⟨.pipe p true, _, _⟩ =>
    match m.pipes.lookup p with
    | some pipe => pipe.size < Pipe.capacity || !m.hasEnd p false
    | none => true
  | _ => true

end Machine
end Doctest
