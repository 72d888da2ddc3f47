/-
# Starting programs

A file that can be executed is one of the machine's own programs or a script.  A script names, in
its first line after `#!`, the program that is to run it, and one argument; the path of the script
comes after that.  Only the first 256 bytes are looked at:

| these bytes | the program's name ends at |
| --- | --- |
| have a line feed before any NUL | a blank or the line feed, before which blanks do not count |
| have none | a blank or a NUL; without one of these it may be cut off and is refused |

The program may again be a script, up to five of them in a row.
-/

import Doctest.Posix.Run
import Doctest.Posix.Tool.Basic

namespace Doctest
namespace Shell
namespace Start

/-! ## Scripts that name their program -/

/-- Whether a byte is a blank. -/
def isGap (c : Char) : Bool := c = ' ' || c = '\t'

/-- The program and the argument that a line names; `none` when it names nothing. -/
def lineParts? (line : Octets) : Option (Octets × List Octets) :=
  let line := (Text.trimEndWhile isGap line).dropWhile isGap
  let program := line.takeWhile (!isGap ·)
  let argument := (line.drop program.length).dropWhile isGap
  if program = [] then none else some (program, if argument = [] then [] else [argument])

/-- The same for a first line that does not end within the bytes that are looked at.  What follows
these is taken to be NUL bytes, which end the name and the argument. -/
def openParts? (bytes : Octets) : Option (Octets × List Octets) :=
  let body := bytes.take 253
  let body := if bytes.length < 254 then bytes ++ ['\x00'] else Text.trimEndWhile isGap body
  let line := body.dropWhile isGap
  let ends (c : Char) : Bool := isGap c || c = '\x00'
  let complete : Bool := bytes.length < 254 || (bytes.dropWhile isGap).any ends
  if line = [] || !complete then none
  else
    let program := line.takeWhile (!ends ·)
    let after := line.drop program.length
    let argument := (after.dropWhile isGap).takeWhile (· ≠ '\x00')
    some (program, if after.head?.any isGap then [argument] else [])

/-- The program and the argument that the first line of a script names. -/
def interpreterLine? (content : Octets) : Option (Octets × List Octets) :=
  match content.take 256 with
  | '#' :: '!' :: bytes =>
    let line := bytes.takeWhile fun c => c ≠ '\n' && c ≠ '\x00'
    if bytes[line.length]? = some '\n' then lineParts? line else openParts? bytes
  | _ => none

example : interpreterLine? "#! /bin/a  b c \nd".toList = some ("/bin/a".toList, ["b c".toList]) ∧
    interpreterLine? "#!/bin/a ".toList = some ("/bin/a".toList, [[]]) ∧
    interpreterLine? "#!\n".toList = none := by decide +kernel

/-- Why a file cannot be started, if it cannot.  `depth` bounds the scripts that name scripts; the
last one is looked for before it is found to be one too many. -/
def startError? (files : Files) (cwd : Place) : Nat → Octets → Option IoError
  | depth, path =>
    match files.walk cwd path with
    | .error e => some e
    | .ok (.missing _) => some .notFound
    | .ok (.found _ node) =>
      match node, depth with
      | .directory, _ | .device _, _ | .link _, _ => some .permissionDenied
      | .file _ false, _ => some .permissionDenied
      | .program _, 0 | .file _ true, 0 =>
        some (.other "Too many levels of symbolic links (os error 40)".toList)
      | .program _, _ => none
      | .file content true, depth + 1 =>
        match interpreterLine? content with
        | some (interpreter, _) => startError? files cwd depth interpreter
        | none => some .execFormat

/-- One more than the number of scripts in a row. -/
def scriptDepth : Nat := 6

/-! ## The arguments of a shell -/

/-- Where a shell gets its commands from. -/
inductive Source where
  | text (t : Octets)
  | file (path : Octets)
  | input
deriving DecidableEq, Repr

/-- What the arguments of a shell ask for. -/
structure Task where
  source : Source
  name : Octets
  arguments : List Octets
  flags : List Char

/-- What the operands of a shell ask for, when it has flags. -/
def Task.ofOperands (name : Octets) (flags : List Char) (operands : List Octets) :
    Except Octets Task :=
  let kept := flags.filter fun c => c ≠ 'c' && c ≠ 's'
  if flags.contains 'c' then
    match operands with
    | source :: name :: more => .ok ⟨.text source, name, more, kept⟩
    | [source] => .ok ⟨.text source, name, [], kept⟩
    | [] => .error "-c requires an argument".toList
  else if flags.contains 's' then .ok ⟨.input, name, operands, flags.filter (· ≠ 'c')⟩
  else match operands with
    | path :: more => .ok ⟨.file path, path, more, kept⟩
    | [] => .ok ⟨.input, name, [], 's' :: kept⟩

/-- The letters that a shell knows as options. -/
def optionLetters : List Char := "abcefilmnpsuvxCEIV".toList

/-- What the arguments of a shell ask for. -/
def Task.ofArguments (name : Octets) : List Octets → List Char → Except Octets Task
  | [], flags => ofOperands name flags []
  | arg :: args, flags =>
    match arg with
    | ['-'] | ['-', '-'] => ofOperands name flags args
    | sign :: letters =>
      if letters = [] || (sign ≠ '-' && sign ≠ '+') then ofOperands name flags (arg :: args)
      else
        let others := flags.filter (!letters.contains ·)
        match letters.find? (!optionLetters.contains ·) with
        | some c => .error ("Illegal option ".toList ++ [sign, c])
        | none => ofArguments name args (if sign = '-' then others ++ letters else others)
    | [] => ofOperands name flags (arg :: args)

/-! ## New processes -/

/-- The place in which the shell lists a variable, modulo 39: the bytes of the name, the first one
seventeen times, added up. -/
def variableBucket (name : Octets) : Nat :=
  (name.foldl (fun n c => n + c.toNat) (16 * (name.headD '\x00').toNat)) % 39

/-- The variables that a program sees, in the order in which the shell passes them on. -/
def exportedBindings (s : ShellState) : List (Octets × Variable) :=
  let exported := s.bindings.filter fun b => b.2.exported && b.2.value?.isSome
  exported.mergeSort fun a b => variableBucket a.1 ≤ variableBucket b.1

/-- A process that a shell turns into a program: it keeps the variables that programs see, and the
signals that are ignored. -/
def asProgram (s : ShellState) : ShellState :=
  { s.withoutTraps with
    bindings := exportedBindings s
    functions := []
    held := []
    jobs := []
    noticed := []
    flags := [] }

/-- A process that becomes a new shell. -/
def asShell (s : ShellState) (name : Octets) (arguments : List Octets) (flags : List Char) :
    ShellState :=
  let own : List (Octets × Octets) := [("IFS".toList, " \t\n".toList), ("OPTIND".toList, ['1']),
    ("PPID".toList, Text.ofNat s.parent), ("PS4".toList, "+ ".toList)]
  let bound := own.foldl (fun s (n, v) => s.assign n v) s
  let bound := if (s.bindings.lookup "PATH".toList).isSome then bound
    else bound.assign "PATH".toList
      "/usr/local/sbin:/usr/local/bin:/usr/sbin:/usr/bin:/sbin:/bin".toList
  let here := bound.setVariable "PWD".toList ⟨some (Files.pathTo s.cwd), true, false⟩
  { here.withoutTraps with
    name := name
    positional := arguments
    functions := []
    locals := []
    status := 0
    held := []
    mainPid := s.pid
    line := 1
    flags := flags
    jobs := []
    noticed := []
    latestJob? := none
    letter := 0
    calls := 0
    loops := 0
    substituted := 0
    before? := none }

end Start
end Shell
end Doctest
