/-
# An interpreter and the ways of running it

An interpreter knows the program it stands for, where that was looked for, and the executable, which
is searched for when it is first needed and remembered, also when it was not found.  Configuring an
executable searches at once.  The steps that need the interpreter act on it as on a state, because
the first one of them may fix the executable.
-/

import Doctest.Interpreter.Child
import Doctest.Interpreter.Resolve
import Doctest.Memo

namespace Doctest

/-- An interpreter. -/
structure Interpreter (m : Type → Type) where
  program : Text
  origin : Text
  executable : Memo m (Option Path)
  timeout : Option Duration

/-- Actions that use an interpreter; a sudden end leaves everything. -/
abbrev Session (m : Type → Type) := StateT (Interpreter m) (ExceptT Halt m)

namespace Interpreter

variable {m : Type → Type} [Monad m]

/-- The environment variable that names the executable. -/
def programVariable : Text := "DOCMARK_RUBY".toList

/-- The program that runs examples when nothing else is said. -/
def defaultProgram : Text := "ruby".toList

/-- Any program: a path, or a bare name to be searched for on `PATH`. -/
def named (h : Host m) (program : Text) : Interpreter m :=
  ⟨program, "PATH".toList, Memo.new (h.resolve program), none⟩

/-- The default program: what the environment variable names, else the name on `PATH`. -/
def ruby (h : Host m) : m (Interpreter m) := do
  match ← h.environment? programVariable with
  | none | some [] => return named h defaultProgram
  | some path =>
    return ⟨defaultProgram, programVariable ++ ['='] ++ Path.display path,
      Memo.new (h.resolveConfigured path), none⟩

/-- The interpreter with a configured executable. -/
def withExecutable (h : Host m) (i : Interpreter m) (path : Path) : m (Interpreter m) := do
  let found ← h.resolveConfigured path
  return { i with origin := path.display, executable := i.executable.set found }

/-- The interpreter whose runs take at most the given time. -/
def withTimeout (i : Interpreter m) (limit? : Option Duration) : Interpreter m :=
  { i with timeout := limit? }

end Interpreter

namespace Session

variable {m : Type → Type} [Monad m]

/-- A call of the host. -/
def call {α : Type} (act : m α) : Session m α := liftM (liftM act : ExceptT Halt m α)

/-- An action followed by one that is never left out, not even at a sudden end. -/
def ensuring {α : Type} (act : Session m α) (after : m Unit) : Session m α := fun i =>
  ExceptT.mk do
    let r ← (act i).run
    after
    return r

/-- The executable. -/
def locate : Session m (Except RunError Path) := do
  let i ← get
  let (found, memo) ← call i.executable.get
  set { i with executable := memo }
  match found with
  | some path => return .ok path
  | none => return .error (.interpreterNotFound i.program i.origin)

/-- Runs the interpreter in the foreground. -/
def run (h : Host m) (arguments : List Bytes) : Session m (Except RunError Unit) := do
  match ← locate with
  | .error e => return .error e
  | .ok executable => liftM (Child.run h executable arguments (← get).timeout)

/-- Runs each file with warnings, up to the first failure. -/
def runEach (h : Host m) : List Path → Session m (Except RunError Unit)
  | [] => return .ok ()
  | file :: files => do
    if ← call (h.isFile file) then
      match ← run h [Text.encode "-w".toList, file] with
      | .error e => return .error e
      | .ok () => runEach h files
    else return .error (.fileNotFound file)

/-- Pipes code into the interpreter and returns what it prints. -/
def runCode (h : Host m) (code : Text) : Session m (Except RunError Text) := do
  match ← locate with
  | .error e => return .error e
  | .ok executable => liftM (Child.capture h executable [] (some code) (← get).timeout)

/-- Runs the interpreter on a file and returns what it prints. -/
def runFile (h : Host m) (path : Path) : Session m (Except RunError Text) := do
  if ← call (h.isFile path) then
    match ← locate with
    | .error e => return .error e
    | .ok executable => liftM (Child.capture h executable [path] none (← get).timeout)
  else return .error (.fileNotFound path)

/-- Runs a script from a scratch file, which is removed on every way out. -/
def runScript (h : Host m) (script : Text) : Session m (Except RunError Text) := do
  match ← call h.createScratch with
  | .error e => return .error (.io e)
  | .ok path =>
    match ← call (h.writeScratch path script) with
    | .error e =>
      call (h.removeScratch path)
      return .error (.io e)
    | .ok () => ensuring (runFile h path) (h.removeScratch path)

end Session
end Doctest
