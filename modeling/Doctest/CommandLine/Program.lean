/-
# The program

The settings are read first; an invalid file of settings ends everything.  Where a value can be had
from several places, the first of these that has one decides:

| value | places |
| --- | --- |
| interpreter | `--ruby`, settings, `DOCMARK_RUBY` unless empty, the name `ruby` |
| library | `--lib`, settings, `lib` |
| time limit | `--timeout`, settings, none |

| exit code | |
| --- | --- |
| 0 | done |
| 1 | something failed |
| 2 | the arguments make no sense |
| 101 | the program could not go on |
-/

import Doctest.CommandLine.Commands
import Doctest.Interpreter.Basic

namespace Doctest
namespace Program

variable {m : Type → Type} [Monad m]

/-- The library's directory when none is named. -/
def defaultLib : Path := .ofText "lib".toList

/-- A path from the root, or the path itself if it names nothing. -/
def fromRoot (h : Host m) (p : Path) : m Path := do return (← h.absolute? p).getD p

/-- The interpreter that runs the examples. -/
def interpreter (h : Host m) (o : Options) (c : Config) : m (Interpreter m) := do
  let default ← Interpreter.ruby h
  let chosen ← match o.ruby <|> c.interpreterPath with
    | some path => default.withExecutable h path
    | none => pure default
  return chosen.withTimeout ((o.timeoutSecs.map Duration.ofSecs) <|> c.timeout)

/-- The library's directory. -/
def lib (h : Host m) (o : Options) (c : Config) : m Path :=
  fromRoot h ((o.lib <|> c.lib).getD defaultLib)

/-- What the examples are run with: the interpreter and the library's directory. -/
def harness (h : Host m) (o : Options) (c : Config) : m (Interpreter m × Path) := do
  let i ← interpreter h o c
  return (i, ← lib h o c)

/-- The bench of an interpreter on a host. -/
def bench (h : Host m) (lib : Path) : Bench (Session m) where
  lib := lib
  readText path := Session.call (h.readText path)
  runScript := Session.runScript h

/-- The desk of an interpreter on a host. -/
def desk (h : Host m) (lib : Path) (colored : Bool) : Desk (Session m) where
  bench := bench h lib
  print channel text := Session.call (h.print channel text)
  colored := colored

/-- What is printed when the version is asked for. -/
def versionText : Text := "docmark 0.1.0\n".toList

/-- What is printed when help is asked for. -/
def helpText : Text := Text.join ['\n'] (List.map String.toList [
  "Run the code examples in rdoc documentation",
  "",
  "Usage: docmark [OPTIONS] <COMMAND>",
  "",
  "Commands:",
  "  spec <DOC> <SECTIONS>...  Run sections as spec-style groups",
  "  test <DOC> <SECTIONS>...  Run sections as unit-style tests",
  "  check [--style <STYLE>]   Run every document listed in the config file",
  "  sections <DOC>            List the section headers of a document",
  "  extract <DOC> <SECTION>   Print the examples of a section as they will be run",
  "  exec <FILES>...           Run files with warnings, stopping at the first failure",
  "",
  "Options:",
  "      --no-color        Disable colored output",
  "      --ruby <PATH>     Executable (default: $DOCMARK_RUBY, then ruby on PATH)",
  "      --lib <DIR>       Directory on the load path of every example (default: ./lib)",
  "      --timeout <SECS>  Kill an example that runs longer than this many seconds",
  "      --config <FILE>   Config file (default: ./docmark.toml if present)",
  "  -h, --help            Print help",
  "  -V, --version         Print version",
  ""])

/-- The exit code for arguments that make no sense. -/
def misuseCode : Nat := 2

/-- The exit code of a program that could not go on. -/
def haltCode : Nat := 101

/-- Runs a command and returns the exit code. -/
def runCommand (h : Host m) (o : Options) (command : Command) : m Nat := do
  match ← Config.load h o.config with
  | .error e =>
    h.print .err ("error: ".toList ++ e.message ++ ['\n'])
    return 1
  | .ok c =>
    let (i, lib) ← harness h o c
    let k := desk h lib (!o.noColor)
    match ← (StateT.run (k.run (Session.runEach h) c command) i).run with
    | .ok (code, _) => return code
    | .error halt =>
      h.print .err (halt.report (← h.trace halt))
      return haltCode

/-- Does what the arguments ask for and returns the exit code. -/
def run (h : Host m) (args : List Bytes) : m Nat :=
  match Invocation.ofArguments args with
  | .run o command => runCommand h o command
  | .version => do
    h.print .out versionText
    return 0
  | .help => do
    h.print .out helpText
    return 0
  | .misuse => do
    h.print .err "error: the arguments make no sense; --help lists what may be given\n".toList
    return misuseCode

end Program
end Doctest
