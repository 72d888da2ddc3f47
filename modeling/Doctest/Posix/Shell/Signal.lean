/-
# Signals by name

A signal is named without `SIG`, in letters of either case, or by its number.  The name `EXIT`, with
the number 0, is no signal: it stands for the end of the shell.
-/

import Doctest.Posix.Octets

namespace Doctest
namespace Shell
namespace Signal

/-- The names of the signals, in the order of their numbers, the first of which is 0. -/
def names : List Octets :=
  List.map String.toList ["EXIT", "HUP", "INT", "QUIT", "ILL", "TRAP", "ABRT", "BUS", "FPE", "KILL",
    "USR1", "SEGV", "USR2", "PIPE", "ALRM", "TERM", "STKFLT", "CHLD", "CONT", "STOP", "TSTP",
    "TTIN", "TTOU", "URG", "XCPU", "XFSZ", "VTALRM", "PROF", "WINCH", "IO", "PWR", "SYS"]

/-- Number of signals. -/
def count : Nat := 65

/-- The number of a signal. -/
def number? (t : Octets) : Option Nat :=
  match Octets.nat? t with
  | some n => if n < count then some n else none
  | none => names.findIdx? (· = t.map Char.toUpper)

/-- The name of a signal, or its number if it has none. -/
def name (n : Nat) : Octets := names[n]?.getD (Text.ofNat n)

/-- What is shown when a signal has ended a program. -/
def word (signal : Nat) : Octets :=
  match signal with
  | 1 => "Hangup".toList
  | 2 | 13 => []
  | 3 => "Quit".toList
  | 4 => "Illegal instruction".toList
  | 6 => "Aborted".toList
  | 7 => "Bus error".toList
  | 8 => "Floating point exception".toList
  | 9 => "Killed".toList
  | 10 => "User defined signal 1".toList
  | 11 => "Segmentation fault".toList
  | 12 => "User defined signal 2".toList
  | 14 => "Alarm clock".toList
  | 15 => "Terminated".toList
  | n => "Signal ".toList ++ Text.ofNat n

/-- The name `term` and the number 15 mean the same signal. -/
example : number? "term".toList = number? "15".toList ∧ name 15 = "TERM".toList := by
  decide +kernel

end Signal
end Shell
end Doctest
