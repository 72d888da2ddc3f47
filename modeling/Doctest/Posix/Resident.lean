/-
# The program as a process

The program that runs examples is a process of the machine like every other one.  What it asks its
host for is what this process does:

| call | the process |
| --- | --- |
| `spawn` | becomes two, the new one of which runs the child's program |
| `feed` | writes to the pipe that it has open under the child's number, and closes it |
| `poll`, `wait` | looks for the end of the child, or waits for it |
| `collect` | waits until nobody can write to the sink of the child's number |
| `pause` | waits for a time |
| `print` | writes to one of its two outputs |

So the program can also be run by what it runs.
-/

import Doctest.CommandLine.Program
import Doctest.Posix.Schedule
import Doctest.Posix.Shell.Start
import Doctest.Posix.Tool.Active

namespace Doctest
namespace Resident

/-- Reads a file as a text. -/
def readText (path : Path) : Run (Except IoError Text) := do
  let m ← get
  match m.files.read m.shell.cwd (Octets.ofBytes path) with
  | .error e => return .error e
  | .ok content =>
    match Octets.toText? content with
    | some t => return .ok t
    | none => return .error .invalidUtf8

/-! ## Scratch files -/

/-- The path of a scratch file. -/
def scratchPath (n : Nat) : Path :=
  let digits := Text.ofNat (n % 1000000)
  .ofText ("/tmp/docmark-example-".toList ++ Text.repeated (6 - digits.length) '0' ++ digits ++
    ".rb".toList)

/-- Makes an empty scratch file, whose number no stream and no other scratch file has. -/
def createScratch : Run (Except IoError Path) := modifyGet fun m =>
  let path := scratchPath m.nextNumber
  let place := Files.placeOf m.shell.cwd (Octets.ofBytes path)
  (.ok path,
    { m with files := m.files.insert place (.file [] false), nextNumber := m.nextNumber + 1 })

/-- Writes a scratch file. -/
def writeScratch (path : Path) (t : Text) : Run (Except IoError Unit) := do
  let m ← get
  match m.files.write m.shell.cwd (Octets.ofBytes path) (Octets.ofText t) with
  | .ok files =>
    set { m with files := files }
    return .ok ()
  | .error e => return .error e

/-- Removes a scratch file. -/
def removeScratch (path : Path) : Run Unit := modify fun m =>
  { m with files := m.files.erase (Files.placeOf m.shell.cwd (Octets.ofBytes path)) }

/-! ## Children -/

/-- The process that a child starts as: it does not ignore what this one ignores. -/
def child (streams : List (Nat × Nat)) (s : ShellState) : ShellState :=
  { s with traps := [], pending := [], streams := streams, held := [] }

/-- Starts a child.  The end of the pipe that its input comes from is open under its number, and a
sink of its number takes the output that is kept. -/
def spawn (r : Tool.Runner) (l : Launch) : Run (Except IoError Pid) := do
  let m ← get
  let path := Octets.ofBytes l.executable
  if (l.executable :: l.arguments).any (·.contains 0) then return .error .nulInArgument
  match Shell.Start.startError? m.files m.shell.cwd Shell.Start.scriptDepth path with
  | some e => return .error e
  | none =>
    let pid := m.nextPid
    let held := m.shell.held
    let input ← match l.input with
      | .piped => do
        let (i, o) ← Run.openPipe []
        Run.connect pid (some o)
        pure i
      | .inherited | .none => Run.openStream ⟨.null, 0, false⟩
    Run.hold [input]
    let kept ← if l.keepsOutput then some <$> Run.openStream ⟨.sink pid, 0, false⟩ else pure none
    let outputs := kept.toList.map ((1, ·)) ++
      m.shell.streams.filter fun c => c.1 = 2 || (c.1 = 1 && kept.isNone)
    let _ ← Run.fork (child ((0, input) :: outputs)) do
      match ← r.exec path (l.arguments.map Octets.ofBytes) with
      | .ok code => return code
      | .error _ => return 127
    Run.modifyShell fun s => { s with held := held }
    return .ok pid

/-- Writes the whole input of a child. -/
def feed (pid : Pid) (t : Text) : Run (Except IoError Unit) := do
  let written ← Run.write? pid (Octets.ofText t)
  Run.connect pid none
  Run.yield
  return if written then .ok () else .error .brokenPipe

/-- Looks whether a child has ended. -/
def poll (pid : Pid) : Run Poll := do
  match (← get).ended.lookup pid with
  | some _ => return ⟨.ok (some (← Run.waitFor pid)), 0⟩
  | none => return ⟨.ok none, 0⟩

/-- Kills a child. -/
def kill (pid : Pid) : Run Unit := modify fun m =>
  { m with signals := m.signals ++ [(pid, Schedule.killSignal)] }

/-- What was kept of a child's output, once nobody can add to it. -/
def collect (pid : Pid) : Run Collected := do
  Run.connect pid none
  Run.pause (.unfed pid)
  return .bytes (Octets.toBytes ((← get).poured pid))

/-- Does nothing for a poll interval, and returns how much longer that took. -/
def pause : Run Nat := do
  let time := (← get).now + pollInterval
  Run.pause (.at_ time)
  return (← get).now - time

/-! ## The host -/

/-- Where in the program a sudden end comes about; the first thread has the number of the
process. -/
def traceOf (pid : Nat) : Halt → Trace
  | .deadlineOverflow =>
    ⟨pid, "/root/workspace/src/interpreter/src/capture.rs:39:24".toList, List.map String.toList [
      "__rustc::rust_begin_unwind",
      "core::panicking::panic_fmt",
      "core::option::expect_failed",
      "<std::time::Instant as core::ops::arith::Add<core::time::Duration>>::add",
      "<interpreter::capture::ChildGuard>::wait",
      "<interpreter::runner::Interpreter>::run_each_with_warnings::<std::path::PathBuf>",
      "docmark::main"]⟩
  | .splitCharacter =>
    ⟨pid, "/root/workspace/src/docmark/src/document/mod.rs:49:20".toList, []⟩

/-- The stream of an output. -/
def streamOf : Channel → Nat
  | .out => 1
  | .err => 2

/-- The machine as the host of a process. -/
def host (r : Tool.Runner) : Host Run where
  byEnding := false
  workingDirectory := return .ok (Octets.toBytes (Files.pathTo (← Run.shell).cwd))
  environment? name :=
    return ((← Run.environment).lookup (Octets.ofText name)).map Octets.toBytes
  isFile path := do
    let m ← get
    return (m.files.find? m.shell.cwd (Octets.ofBytes path)).any Node.isFile
  readText := readText
  createScratch := createScratch
  writeScratch := writeScratch
  removeScratch := removeScratch
  spawn := spawn r
  feed := feed
  wait pid := return .ok (← Run.waitFor pid)
  poll := poll
  kill := kill
  collect := collect
  now := return (← get).now
  pause := pause
  print channel t := Run.write (streamOf channel) (Octets.ofText t)
  trace e := return traceOf (← Run.shell).pid e

end Resident

namespace Tool

/-- The program that runs examples. -/
def docmark (r : Runner) (c : Call) : Run Nat :=
  Doctest.Program.run (Resident.host r) (c.arguments.map Octets.toBytes)

end Tool
end Doctest
