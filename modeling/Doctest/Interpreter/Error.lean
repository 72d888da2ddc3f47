/-
# Failures of the interpreter

| failure | message |
| --- | --- |
| no executable | ``interpreter not found: no `N` executable (searched S)`` |
| no such file to run | ``file does not exist: `P'`` |
| a run that did not end with code 0 | `C failed with status N` |
| a run that took too long | `C did not finish within Ss and was killed` |
| the reader of the output broke | `output reader thread panicked` |
| the operating system refused a call | `I/O error: …` |

What the code of an example raises is not among them: it is output.
-/

import Doctest.Host.Basic
import Doctest.Duration

namespace Doctest

/-- A failure of the interpreter or of its surroundings. -/
inductive RunError where
  | interpreterNotFound (name searched : Text)
  | fileNotFound (path : Path)
  | processFailed (command : Text) (code : Option Int)
  | timeout (command : Text) (limit : Duration)
  | readerPanicked
  | io (cause : IoError)
deriving DecidableEq, Repr

namespace RunError

/-- The code of a process, or that a signal ended it. -/
def codeLabel : Option Int → Text
  | some code => Text.ofInt code
  | none => "unknown (terminated by signal)".toList

/-- The message of a failure. -/
def message : RunError → Text
  | .interpreterNotFound name searched =>
    "interpreter not found: no `".toList ++ name ++ "` executable (searched ".toList ++ searched ++
      ")".toList
  | .fileNotFound path => "file does not exist: `".toList ++ path.display ++ "'".toList
  | .processFailed command code => command ++ " failed with status ".toList ++ codeLabel code
  | .timeout command limit =>
    command ++ " did not finish within ".toList ++ limit.render ++ "s and was killed".toList
  | .readerPanicked => "output reader thread panicked".toList
  | .io cause => "I/O error: ".toList ++ cause.message

end RunError

end Doctest
