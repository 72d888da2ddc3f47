/-
# What a process does

A process goes on step by step.  Between two pauses nothing else happens on the machine, so that a
pause is the place where processes take turns.

| step | the process |
| --- | --- |
| `ended` | is over |
| `paused` | goes on when what it waits for has come |
| `forked` | goes on, and beside it goes another |

`Run α` is the part of a process that comes to a result of type `α`: it is told how the process goes
on after that, with the result or with a reason to leave what it was doing.
-/

import Doctest.Posix.Machine

namespace Doctest

/-- Why a process does not go on with its next command. -/
inductive Leave where
  | exit (code : Nat)
  | killed (signal : Nat)
  | break_ (loops : Nat)
  | continue_ (loops : Nat)
  | return_ (code : Nat)
deriving DecidableEq, Repr

/-- What a process waits for: a time, bytes in a stream or room for them, a sink that nobody can
write to, or the end of one of its children, which a signal may interrupt. -/
inductive Wake where
  | at_ (time : Nat)
  | readable (stream : Nat)
  | writable (stream : Nat)
  | unfed (sink : Nat)
  | ended (child : Nat) (interruptible : Bool)
deriving DecidableEq, Repr

/-- What becomes of a process at its next step. -/
inductive Step where
  | ended (status : ExitStatus) (m : Machine)
  | paused (wake : Wake) (m : Machine) (go : Machine → Step)
  | forked (child : Nat) (body : Machine → Step) (m : Machine) (go : Machine → Step)

/-- A part of what a process does. -/
def Run (α : Type) : Type := (Except Leave α → Machine → Step) → Machine → Step

namespace Run

instance : Monad Run where
  pure a := fun go m => go (.ok a) m
  bind act f := fun go m => act (fun r m => match r with
    | .ok a => f a go m
    | .error e => go (.error e) m) m

instance : MonadStateOf Machine Run where
  get := fun go m => go (.ok m) m
  set m := fun go _ => go (.ok ()) m
  modifyGet f := fun go m => go (.ok (f m).1) (f m).2

/-- Leaves what is being done. -/
def leave {α : Type} (e : Leave) : Run α := fun go m => go (.error e) m

/-- Does something and looks at how it ended. -/
def attempt {α : Type} (act : Run α) : Run (Except Leave α) := fun go m =>
  act (fun r m => go (.ok r) m) m

/-- Goes on as an outcome says. -/
def settle {α : Type} : Except Leave α → Run α
  | .ok a => return a
  | .error e => leave e

/-- How a process ends that has nothing left to do. -/
def finish (status : Nat) : Except Leave Nat → Machine → Step
  | .ok code, m | .error (.exit code), m | .error (.return_ code), m =>
    .ended (.exited (code % 256)) m
  | .error (.killed signal), m => .ended (.signaled signal) m
  | .error (.break_ _), m | .error (.continue_ _), m => .ended (.exited status) m

/-- The whole of a process that ends with an exit code. -/
def toStep (act : Run Nat) (m : Machine) : Step := act (finish 0) m

/-! ## Time -/

/-- Nanoseconds that it takes to start a program. -/
def startTime : Nat := 800000

/-- Nanoseconds that it takes to become two processes. -/
def forkTime : Nat := 60000

/-- Nanoseconds that a command of the shell takes. -/
def stepTime : Nat := 2000

/-- Waits. -/
def pause (wake : Wake) : Run Unit := fun go m => .paused wake m fun m => go (.ok ()) m

/-- Lets time pass. -/
def tick (nanos : Nat) : Run Unit := fun go m =>
  let now := m.now + nanos
  if now ≤ m.horizon then go (.ok ()) { m with now := now }
  else .paused (.at_ now) m fun m => go (.ok ()) m

/-- Gives the others their turn at the next step, because something has changed for them. -/
def yield : Run Unit := modify fun m => { m with horizon := 0 }

/-! ## The shell process -/

/-- The running shell. -/
def shell : Run ShellState := return (← get).shell

/-- Changes the running shell. -/
def modifyShell (f : ShellState → ShellState) : Run Unit :=
  modify fun m => { m with shell := f m.shell }

/-- Sets the exit code of the latest command. -/
def setStatus (code : Nat) : Run Unit := modifyShell fun s => { s with status := code }

/-- The value of a variable. -/
def valueOf? (name : Octets) : Run (Option Octets) := return (← shell).valueOf? name

/-- The variables that programs see. -/
def environment : Run (List (Octets × Octets)) :=
  return (← shell).bindings.filterMap fun (n, v) =>
    if v.exported then v.value?.map (n, ·) else none

/-! ## Processes -/

/-- Starts a process beside this one, with a state made from this one's, and returns its number. -/
def fork (adapt : ShellState → ShellState) (body : Run Nat) : Run Nat := fun go m =>
  let pid := m.nextPid
  let child := { adapt m.shell with
    pid := pid, parent := m.shell.pid, jobs := [], noticed := [] }
  .forked pid body.toStep { m with nextPid := pid + 1, others := (pid, child) :: m.others }
    fun m => go (.ok pid) m

/-- Waits for the end of a child and returns how it ended. -/
def waitFor (pid : Nat) : Run ExitStatus := do
  if ((← get).ended.lookup pid).isNone then pause (.ended pid false)
  let m ← get
  set { m with ended := m.ended.filter (·.1 ≠ pid) }
  return (m.ended.lookup pid).getD (.exited 127)

/-- The exit code that stands for the end of a process. -/
def codeOf : ExitStatus → Nat
  | .exited code => code
  | .signaled signal => 128 + signal

/-! ## Streams -/

/-- A new stream. -/
def openStream (s : Stream) : Run Nat := modifyGet fun m => m.tidy.addStream s

/-- A new pipe that holds some bytes: the streams that read and write. -/
def openPipe (t : Octets) : Run (Nat × Nat) := modifyGet fun m =>
  let (i, o, m) := m.addPipe t
  ((i, o), m)

/-- Changes a stream. -/
def setStream (i : Nat) (s : Stream) : Run Unit := modify (·.setStream i s)

/-- The stream of the given number, in the running shell. -/
def stream? (number : Nat) : Run (Option (Nat × Stream)) := do
  let m ← get
  return (m.shell.streams.lookup number).bind fun i => (m.stream? i).map (i, ·)

/-- Connects a number to a stream, or to none. -/
def connect (number : Nat) (to_ : Option Nat) : Run Unit := modifyShell fun s =>
  let others := s.streams.filter (·.1 ≠ number)
  { s with streams := match to_ with
    | some i => (number, i) :: others
    | none => others }

/-- Keeps streams open for some time. -/
def hold (streams : List Nat) : Run Unit :=
  modifyShell fun s => { s with held := streams ++ s.held }

/-- Does something with other connections and restores the old ones after that, however it ends. -/
def withStreams {α : Type} (act : Run α) : Run α := do
  let s ← shell
  hold (s.streams.map Prod.snd)
  let r ← attempt act
  modifyShell fun t => { t with streams := s.streams, held := s.held }
  yield
  settle r

/-- Number of bytes read from a device at a time. -/
def blockSize : Nat := 65536

/-- The next bytes of a stream, at most so many; there are none at its end. -/
def readFrom (i most : Nat) : Run Octets := do
  match (← get).stream? i with
  | none => return []
  | some s =>
    match s.connection with
    | .null | .sink _ | .pipe _ true => return []
    | .zero => return List.replicate (min most blockSize) '\x00'
    | .file place =>
      let t := (((← get).fileContent place).drop s.offset).take most
      setStream i { s with offset := s.offset + t.length }
      return t
    | .pipe p false =>
      if !(← get).canRead i then pause (.readable i)
      let m ← get
      match m.pipes.lookup p with
      | none => return []
      | some pipe =>
        let (t, pipe) := pipe.take most
        set (m.setPipe p pipe)
        yield
        return t

/-- All that is left of a stream; `fuel` bounds the pieces. -/
def readPieces (i : Nat) : Nat → List Octets → Run Octets
  | 0, pieces => return pieces.reverse.flatten
  | fuel + 1, pieces => do
    match ← readFrom i blockSize with
    | [] => return pieces.reverse.flatten
    | t =>
      tick stepTime
      readPieces i fuel (t :: pieces)

/-- Bounds the pieces that are read from a stream. -/
def pieceLimit : Nat := 1000000000

/-- All that is left of a stream. -/
def readAllFrom (i : Nat) : Run Octets := readPieces i pieceLimit []

/-- The next bytes of the stream of a number. -/
def readSome (number most : Nat) : Run Octets := do
  match ← stream? number with
  | none => return []
  | some (i, _) => readFrom i most

/-- All that is left of the stream of a number. -/
def readAll (number : Nat) : Run Octets := do
  match ← stream? number with
  | none => return []
  | some (i, _) => readAllFrom i

/-- Puts bytes back that were read last from a stream. -/
def unread (number : Nat) (t : Octets) : Run Unit := do
  if t = [] then return ()
  match ← stream? number with
  | none => return ()
  | some (i, s) =>
    match s.connection with
    | .file _ => setStream i { s with offset := s.offset - t.length }
    | .pipe p false => modify fun m =>
      match m.pipes.lookup p with
      | some pipe => m.setPipe p (pipe.putBack t)
      | none => m
    | _ => return ()

/-- Puts bytes back that were read last, if the stream is a file. -/
def restore (i : Nat) (t : Octets) : Run Unit := do
  match (← get).stream? i with
  | some ⟨.file p, offset, appends⟩ => setStream i ⟨.file p, offset - t.length, appends⟩
  | _ => return ()

/-- Whether a stream is a file, so that bytes can be put back. -/
def isFile (number : Nat) : Run Bool :=
  return match ← stream? number with
    | some (_, ⟨.file _, _, _⟩) => true
    | _ => false

/-- The number of the signal that comes from writing to a pipe that nobody reads. -/
def pipeSignal : Nat := 13

/-- Writes to a stream and tells whether that was possible. -/
def write? (number : Nat) (t : Octets) : Run Bool := do
  if t = [] then return true
  match ← stream? number with
  | none => return false
  | some (i, s) =>
    match s.connection with
    | .null | .zero => return true
    | .sink k =>
      modify (·.pour k t)
      return true
    | .pipe _ false => return false
    | .pipe p true =>
      if !(← get).canWrite i then pause (.writable i)
      let m ← get
      if m.hasEnd p false then
        modify fun m => match m.pipes.lookup p with
          | some pipe => m.setPipe p (pipe.push t)
          | none => m
        yield
        return true
      else
        match m.shell.traps.lookup pipeSignal with
        | none => leave (.killed pipeSignal)
        | some [] => return false
        | some _ =>
          modifyShell fun s => { s with pending := s.pending ++ [pipeSignal] }
          return false
    | .file place =>
      let m ← get
      match m.files.node? place with
      | some (.file content x) =>
        let at_ := if s.appends then content.length else s.offset
        let new := content.take at_ ++ List.replicate (at_ - content.length) '\x00' ++ t ++
          content.drop (at_ + t.length)
        set { m with files := m.files.insert place (.file new x) }
        setStream i { s with offset := at_ + t.length }
        return true
      | _ => return true

/-- Writes to a stream. -/
def write (number : Nat) (t : Octets) : Run Unit := do
  let _ ← write? number t

/-- A line on standard error that names the shell and the line of the script. -/
def complain (message : Octets) : Run Unit := do
  let s ← shell
  write 2 (s.name ++ ": ".toList ++ Text.ofNat s.line ++ ": ".toList ++ message ++ ['\n'])

/-- Gives a variable a value; one that is fixed ends the shell. -/
def assign (name value : Octets) : Run Unit := do
  if ((← shell).bindings.lookup name).any (·.fixed) then
    complain (name ++ ": is read only".toList)
    leave (.exit 2)
  else modifyShell (·.assign name value)

/-- Opens a file.  What it held is dropped if that is asked for. -/
def openFile (path : Octets) (reads appends truncates : Bool) : Run (Except IoError Nat) := do
  let m ← get
  let opened (s : Stream) : Run (Except IoError Nat) := do return .ok (← openStream s)
  match m.files.walk m.shell.cwd path with
  | .error e => return .error e
  | .ok (.missing place) =>
    if reads then return .error .notFound
    else
      set { m with files := m.files.insert place (.file [] false) }
      opened ⟨.file place, 0, appends⟩
  | .ok (.found place node) =>
    match node with
    | .directory => if reads then opened ⟨.null, 0, false⟩ else return .error .isDirectory
    | .device (.stream number) =>
      match m.shell.streams.lookup number with
      | some i => return .ok i
      | none => return .error .notFound
    | .device .null => opened ⟨.null, 0, false⟩
    | .device .zero => opened ⟨.zero, 0, false⟩
    | .program _ | .link _ =>
      if reads then opened ⟨.null, 0, false⟩ else return .error .permissionDenied
    | .file _ x =>
      if truncates then set { m with files := m.files.insert place (.file [] x) }
      opened ⟨.file place, 0, appends⟩

end Run
end Doctest
