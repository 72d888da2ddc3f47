/-
# Lengths of time

A length of time is counted in whole seconds and nanoseconds and is shown in seconds.  What is
shown is a binary fraction: the seconds rounded to one, plus the nanoseconds over 10⁹ rounded to
one, the sum rounded once more.  So a very long time loses its nanoseconds, and the text of any
other is the decimal that one would write.
-/

import Doctest.Decimal.Shortest

namespace Doctest

/-- A length of time: whole seconds and nanoseconds. -/
structure Duration where
  secs : Nat
  nanos : Nat
deriving DecidableEq, Repr

namespace Duration

/-- A whole number of seconds. -/
def ofSecs (n : Nat) : Duration := ⟨n, 0⟩

/-- A whole number of milliseconds. -/
def ofMillis (n : Nat) : Duration := ⟨n / 1000, n % 1000 * 1000000⟩

/-- The length in nanoseconds. -/
def toNanos (d : Duration) : Nat := d.secs * 1000000000 + d.nanos

/-- The length in whole milliseconds. -/
def toMillis (d : Duration) : Nat := d.toNanos / 1000000

/-- The length in seconds, as the binary fraction that is shown. -/
def seconds (d : Duration) : Binary :=
  (Binary.nearest d.secs 1).add (Binary.nearest d.nanos 1000000000)

/-- The length in seconds, in the fewest digits. -/
def render (d : Duration) : Text := d.seconds.shortest.render

end Duration

example : (Duration.ofMillis 60).render = "0.06".toList := by decide +kernel

end Doctest
