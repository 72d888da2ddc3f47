/-
# The operating system as seen by a run

Everything that a run asks of the operating system is one of the calls of a `Host`.  A host acts in
a monad of its own: a simulated one keeps files and processes in a state, and a statement about
every behaviour of the operating system ranges over all hosts.

| calls | |
| --- | --- |
| `workingDirectory`, `environment?`, `isFile`, `readText` | what is there |
| `createScratch`, `writeScratch`, `removeScratch` | the file an example runs from |
| `spawn`, `feed`, `wait`, `poll`, `kill`, `collect` | a child process |
| `now`, `pause` | time, in nanoseconds |
| `print` | the program's own output |
| `trace` | where in the program a sudden end came about |

Time only moves forward: `poll` and `pause` say how many nanoseconds they took, a pause counting
what it took beyond the poll interval.
-/

import Doctest.Path

namespace Doctest

/-- How a call of the operating system fails. -/
inductive IoError where
  | notFound
  | execFormat
  | permissionDenied
  | notDirectory
  | isDirectory
  | brokenPipe
  | nameTooLong
  | invalidUtf8
  | nulInPath
  | nulInArgument
  | other (text : Text)
deriving DecidableEq, Repr

namespace IoError

/-- The message of a failed call. -/
def message : IoError → Text
  | .notFound => "No such file or directory (os error 2)".toList
  | .execFormat => "Exec format error (os error 8)".toList
  | .permissionDenied => "Permission denied (os error 13)".toList
  | .notDirectory => "Not a directory (os error 20)".toList
  | .isDirectory => "Is a directory (os error 21)".toList
  | .brokenPipe => "Broken pipe (os error 32)".toList
  | .nameTooLong => "File name too long (os error 36)".toList
  | .invalidUtf8 => "stream did not contain valid UTF-8".toList
  | .nulInPath => "file name contained an unexpected NUL byte".toList
  | .nulInArgument => "nul byte found in provided data".toList
  | .other text => text

end IoError

/-- How a process ended: by itself, with a code, or by a signal. -/
inductive ExitStatus where
  | exited (code : Nat)
  | signaled (signal : Nat)
deriving DecidableEq, Repr

namespace ExitStatus

/-- Whether the process ended by itself with code 0. -/
def isSuccess (s : ExitStatus) : Bool := s = .exited 0

/-- The code of a process that ended by itself. -/
def code? : ExitStatus → Option Int
  | .exited code => some code
  | .signaled _ => none

end ExitStatus

/-- Where a child's standard input comes from. -/
inductive InputSource where
  | inherited
  | piped
  | none
deriving DecidableEq, Repr

/-- A program to be started: its file, its arguments, its standard input, and whether its standard
output is kept for `collect` instead of being passed on. -/
structure Launch where
  executable : Path
  arguments : List Bytes
  input : InputSource
  keepsOutput : Bool
deriving DecidableEq, Repr

/-- A child process. -/
abbrev Pid := Nat

/-- What a look at a child says: whether it has ended, and how long looking took. -/
structure Poll where
  status : Except IoError (Option ExitStatus)
  took : Nat

/-- What became of the output kept from a child. -/
inductive Collected where
  | bytes (bs : Bytes)
  | failed (e : IoError)
  | panicked
deriving DecidableEq, Repr

/-- The program's two output streams. -/
inductive Channel where
  | out
  | err
deriving DecidableEq, Repr

/-- What ends the whole program on the spot: a deadline past the last instant that the clock can
hold, or a byte offset inside a character. -/
inductive Halt where
  | deadlineOverflow
  | splitCharacter
deriving DecidableEq, Repr

/-- Where a sudden end came about: the number of the thread, the place in the program's text, and
the calls that led there, the innermost first. -/
structure Trace where
  thread : Nat
  place : Text
  calls : List Text
deriving DecidableEq, Repr

namespace Halt

/-- The message of a sudden end. -/
def message : Halt → Text
  | .deadlineOverflow => "overflow when adding duration to instant".toList
  | .splitCharacter => "byte index is not a char boundary".toList

/-- A call with its number, on a line of its own. -/
def callLine (call : Text) (i : Nat) : Text :=
  let digits := Text.ofNat i
  Text.repeated (4 - digits.length) ' ' ++ digits ++ ": ".toList ++ call ++ ['\n']

/-- What is shown of a sudden end. -/
def report (e : Halt) (t : Trace) : Text :=
  "\nthread 'main' (".toList ++ Text.ofNat t.thread ++ ") panicked at ".toList ++ t.place ++
    ":\n".toList ++ e.message ++ "\nstack backtrace:\n".toList ++
    (t.calls.zipIdx.flatMap fun (call, i) => callLine call i) ++
    ("note: Some details are omitted, run with \x60RUST_BACKTRACE=full\x60 for a verbose " ++
      "backtrace.\n").toList

end Halt

/-- Nanoseconds that a pause takes at least. -/
def pollInterval : Nat := 10000000

/-- The calls of an operating system. -/
structure Host (m : Type → Type) where
  /-- Whether the host tells programs from other files by their names. -/
  byEnding : Bool
  workingDirectory : m (Except IoError Path)
  environment? : Text → m (Option Bytes)
  isFile : Path → m Bool
  readText : Path → m (Except IoError Text)
  createScratch : m (Except IoError Path)
  writeScratch : Path → Text → m (Except IoError Unit)
  removeScratch : Path → m Unit
  spawn : Launch → m (Except IoError Pid)
  feed : Pid → Text → m (Except IoError Unit)
  wait : Pid → m (Except IoError ExitStatus)
  poll : Pid → m Poll
  kill : Pid → m Unit
  collect : Pid → m Collected
  now : m Nat
  pause : m Nat
  print : Channel → Text → m Unit
  trace : Halt → m Trace

end Doctest
