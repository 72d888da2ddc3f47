/-
# Redirections

Before a command runs, the streams that its redirections name are connected to something else, one
after the other.  The first that cannot be opened is complained about, and the command is not run.
-/

import Doctest.Posix.Shell.Expansion
import Doctest.Posix.Tool.Basic

namespace Doctest
namespace Shell
namespace Redirection

/-- The complaint about a file that cannot be opened. -/
def complaint (path : Octets) (reads : Bool) (e : IoError) : Octets :=
  let why := match e, reads with
    | .notFound, true | .notDirectory, true => "No such file".toList
    | .notFound, false | .notDirectory, false => "Directory nonexistent".toList
    | e, _ => Tool.reason e
  (if reads then "cannot open ".toList else "cannot create ".toList) ++ path ++ ": ".toList ++ why

/-- How a file is opened. -/
structure Mode where
  reads : Bool
  appends : Bool
  truncates : Bool

/-- Opens a file and connects it; the outcome tells whether that went well. -/
def connectFile (number : Nat) (path : Octets) (mode : Mode) : Run Bool := do
  match ← Run.openFile path mode.reads mode.appends mode.truncates with
  | .ok i =>
    Run.connect number (some i)
    return true
  | .error e =>
    Run.complain (complaint path mode.reads e)
    return false

/-- Connects a number to the stream of another one, or to none. -/
def connectStream (number : Nat) (t : Octets) : Run Bool := do
  if t = ['-'] then
    Run.connect number none
    return true
  else
    match (Octets.nat? t).bind ((← Run.shell).streams.lookup ·) with
    | some i =>
      Run.connect number (some i)
      return true
    | none =>
      Run.complain (t ++ ": Bad file descriptor".toList)
      return false

/-- Opens what a redirection asks for and connects it. -/
def open_ (substitute : Octets → Run Octets) (r : Redirection) : Run Bool := do
  let text (w : Word) : Run Octets := Expansion.wordText substitute w
  match r.replacement with
  | .input path => connectFile r.stream (← text path) ⟨true, false, false⟩
  | .append path => connectFile r.stream (← text path) ⟨false, true, false⟩
  | .both path => connectFile r.stream (← text path) ⟨false, false, false⟩
  | .output path force =>
    let path ← text path
    let m ← get
    match m.files.find? m.shell.cwd path with
    | some (.file ..) =>
      if m.shell.flags.contains 'C' && !force then
        Run.complain ("cannot create ".toList ++ path ++ ": File exists".toList)
        return false
      else connectFile r.stream path ⟨false, false, true⟩
    | _ => connectFile r.stream path ⟨false, false, true⟩
  | .stream number => connectStream r.stream (← text number)
  | .document body =>
    let t ← text body
    let (i, _) ← Run.openPipe t
    Run.connect r.stream (some i)
    return true

/-- Opens all that redirections ask for, up to the first that fails. -/
def openAll (substitute : Octets → Run Octets) : List Redirection → Run Bool
  | [] => return true
  | r :: rs => do
    if ← open_ substitute r then openAll substitute rs else return false

end Redirection
end Shell
end Doctest
