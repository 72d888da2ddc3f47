/-
# The life of a child process

A child is given its input, then waited for without limit or looked at every ten milliseconds until
its deadline.  One guard stands around all of it: on a way out without the child's status, whichever
it is, the child is killed and waited for.

    spawn ── guard: input ── wait, or poll … poll ── status ── collect the output
                      │                │
                      └── an error, the deadline, a sudden end ── kill, wait
-/

import Doctest.Interpreter.Error

namespace Doctest
namespace Child

variable {m : Type → Type} [Monad m]

/-- The last instant, in nanoseconds, that the clock can hold: a signed 64-bit number of seconds
and a nanosecond part. -/
def lastInstant : Nat := 9223372036854775807 * 1000000000 + 999999999

/-- The instant at the given time after `start`, if the clock can hold it. -/
def deadline? (start : Nat) (limit : Duration) : Option Nat :=
  let sum := start + limit.toNanos
  if sum ≤ lastInstant then some sum else none

/-- Kills a child and waits for it. -/
def reap (h : Host m) (p : Pid) : m Unit := do
  h.kill p
  let _ ← h.wait p

/-- Whether the child's status was collected. -/
def isCollected : Except Halt (Except RunError ExitStatus) → Bool
  | .ok (.ok _) => true
  | _ => false

/-- Something that is done with a child until it has ended.  If it comes to anything else than the
child's status, a sudden end too, the child is killed and waited for. -/
def guarded (h : Host m) (p : Pid) (act : ExceptT Halt m (Except RunError ExitStatus)) :
    ExceptT Halt m (Except RunError ExitStatus) :=
  ExceptT.mk do
    let r ← act.run
    if isCollected r then return r
    else
      reap h p
      return r

/-- Looks at the child until it has ended or the deadline has come; `now` is the time of the next
look. -/
def watch (h : Host m) (p : Pid) (command : Text) (limit : Duration) (deadline now : Nat) :
    m (Except RunError ExitStatus) := do
  let seen ← h.poll p
  match seen.status with
  | .error e => return .error (.io e)
  | .ok (some status) => return .ok status
  | .ok none =>
    if _hd : deadline ≤ now + seen.took then return .error (.timeout command limit)
    else
      let late ← h.pause
      watch h p command limit deadline (now + seen.took + pollInterval + late)
termination_by deadline - now
decreasing_by simp only [pollInterval]; omega

/-- Waits for the child's end. -/
def await (h : Host m) (p : Pid) (command : Text) (limit? : Option Duration) :
    ExceptT Halt m (Except RunError ExitStatus) :=
  match limit? with
  | none => do
    match ← h.wait p with
    | .ok status => return .ok status
    | .error e => return .error (.io e)
  | some limit => do
    let start ← h.now
    match deadline? start limit with
    | some deadline => liftM (watch h p command limit deadline start)
    | none => throw .deadlineOverflow

/-- The command line in backquotes, as messages show it. -/
def commandLabel (executable : Path) (arguments : List Bytes) : Text :=
  ['\x60'] ++ Text.join [' '] ((executable :: arguments).map Text.decodeLenient) ++ ['\x60']

/-- Runs a program with the streams of this one. -/
def run (h : Host m) (executable : Path) (arguments : List Bytes) (limit? : Option Duration) :
    ExceptT Halt m (Except RunError Unit) := do
  let label := commandLabel executable arguments
  match ← h.spawn ⟨executable, arguments, .inherited, false⟩ with
  | .error e => return .error (.io e)
  | .ok p =>
    match ← guarded h p (await h p label limit?) with
    | .error e => return .error e
    | .ok status =>
      if status.isSuccess then return .ok ()
      else return .error (.processFailed label status.code?)

/-- Writes the input of a child.  A child that ends without reading all of it is no error: what it
printed is still the result. -/
def feed (h : Host m) (p : Pid) (input? : Option Text) : m (Except IoError Unit) :=
  match input? with
  | none => pure (.ok ())
  | some input => do
    match ← h.feed p input with
    | .error .brokenPipe => return .ok ()
    | r => return r

/-- The output of a child that has ended, read as UTF-8. -/
def output : Collected → Except RunError Text
  | .bytes bs => .ok (Text.decodeLenient bs)
  | .failed e => .error (.io e)
  | .panicked => .error .readerPanicked

/-- Writes the input of a child and waits for its end. -/
def converse (h : Host m) (p : Pid) (command : Text) (input? : Option Text)
    (limit? : Option Duration) : ExceptT Halt m (Except RunError ExitStatus) := do
  match ← (feed h p input? : m (Except IoError Unit)) with
  | .error e => return .error (.io e)
  | .ok () => await h p command limit?

/-- Runs a program on an input, or on none, and returns what it prints, whatever its exit code. -/
def capture (h : Host m) (executable : Path) (arguments : List Bytes) (input? : Option Text)
    (limit? : Option Duration) : ExceptT Halt m (Except RunError Text) := do
  let label := commandLabel executable arguments
  let input := if input?.isSome then InputSource.piped else .none
  match ← h.spawn ⟨executable, arguments, input, true⟩ with
  | .error e => return .error (.io e)
  | .ok p =>
    match ← guarded h p (converse h p label input? limit?) with
    | .error e => return .error e
    | .ok _ => return output (← h.collect p)

end Child
end Doctest
