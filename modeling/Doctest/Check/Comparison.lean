/-
# Comparing outputs

A comparison accepts what an example printed or rejects it with a text that is reported for the
example.  It is told the expected output, the actual one and the example's index.
-/

import Doctest.Text.Quoted

namespace Doctest

/-- A verdict on an example: accepted, or rejected with a text. -/
abbrev Verdict := Except Text Unit

/-- A comparison of the expected with the actual output of an example. -/
abbrev Comparison := Text → Text → Nat → Verdict

namespace Comparison

/-- The text that reports two different outputs, each quoted on a line of its own. -/
def mismatch (expected actual : Text) : Text :=
  "output mismatch\n  expected: ".toList ++ Text.quoted expected ++ "\n  actual:   ".toList ++
    Text.quoted actual

/-- Accepts equal outputs only. -/
def equality : Comparison := fun expected actual _ =>
  if expected = actual then .ok () else .error (mismatch expected actual)

end Comparison
end Doctest
