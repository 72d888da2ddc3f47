/-
# Counting cases and showing them

    <blank line>
    <title of the group or suite>
      section `S'
        PASS  should run as claimed (2 examples)
        FAIL  should run as claimed

    failures:

      --- <title of the case> ---
      <line of the reason>

    test result: FAILED. 1 passed, 1 failed (of 2)

The words `PASS` and `ok` are green and `FAIL` and `FAILED` red, and a title is bold, unless the
output has no colours.  Nothing but the number of failed cases decides the exit code.
-/

import Doctest.Suite.Cases

namespace Doctest

/-- A style of letters on a terminal. -/
inductive Paint where
  | bold
  | green
  | red
deriving DecidableEq, Repr

namespace Paint

/-- The number that selects the style. -/
def number : Paint → Nat
  | .bold => 1
  | .green => 32
  | .red => 31

/-- A text in the style, if there are colours at all. -/
def apply (p : Paint) (colored : Bool) (t : Text) : Text :=
  if colored then
    "\x1b[".toList ++ Text.ofNat p.number ++ ['m'] ++ t ++ "\x1b[0m".toList
  else t

end Paint

/-- A case that failed. -/
structure FailedCase where
  title : Text
  reason : Text
deriving DecidableEq, Repr

/-- The counts of the cases run so far. -/
structure Tally where
  passed : Nat
  failed : Nat
  examples : Nat
  failures : List FailedCase
deriving DecidableEq, Repr

namespace Tally

/-- Nothing run yet. -/
def zero : Tally := ⟨0, 0, 0, []⟩

/-- The counts with one more case. -/
def record (s : Tally) (title : Text) : Except CheckError Nat → Tally
  | .ok examples =>
    { s with passed := s.passed + 1, examples := s.examples + examples }
  | .error e =>
    { s with failed := s.failed + 1, failures := s.failures ++ [⟨title, e.message⟩] }

/-- A number of examples in words. -/
def examplesLabel (n : Nat) : Text :=
  if n = 1 then "1 example".toList else Text.ofNat n ++ " examples".toList

/-- The line that shows a case that has been run. -/
def caseLine (colored : Bool) (indent label : Text) : Except CheckError Nat → Text
  | .ok examples =>
    indent ++ Paint.green.apply colored "PASS".toList ++ "  ".toList ++ label ++ " (".toList ++
      examplesLabel examples ++ ")\n".toList
  | .error _ =>
    indent ++ Paint.red.apply colored "FAIL".toList ++ "  ".toList ++ label ++ ['\n']

/-- The line that shows a group or suite, after a blank one. -/
def titleLines (colored : Bool) (title : Text) : Text :=
  ['\n'] ++ Paint.bold.apply colored title ++ ['\n']

/-- A failed case with the lines of its reason. -/
def failureText (f : FailedCase) : Text :=
  "\n  --- ".toList ++ f.title ++ " ---\n".toList ++
    (Text.lines f.reason).flatMap fun l => "  ".toList ++ l ++ ['\n']

/-- The failed cases, if there are any. -/
def failuresText (s : Tally) : Text :=
  if s.failures = [] then [] else "\nfailures:\n".toList ++ s.failures.flatMap failureText

/-- The last line. -/
def resultLine (colored : Bool) (s : Tally) : Text :=
  "\ntest result: ".toList ++
    if s.failed = 0 then
      Paint.green.apply colored "ok".toList ++ ". ".toList ++ Text.ofNat s.passed ++
        " passed, 0 failed (".toList ++ examplesLabel s.examples ++ " run)\n".toList
    else
      Paint.red.apply colored "FAILED".toList ++ ". ".toList ++ Text.ofNat s.passed ++
        " passed, ".toList ++ Text.ofNat s.failed ++ " failed (of ".toList ++
        Text.ofNat (s.passed + s.failed) ++ ")\n".toList

/-- What is shown when all cases have been run. -/
def closingText (colored : Bool) (s : Tally) : Text := s.failuresText ++ s.resultLine colored

/-- The exit code: 0 if no case failed. -/
def exitCode (s : Tally) : Nat := if s.failed = 0 then 0 else 1

end Tally
end Doctest
