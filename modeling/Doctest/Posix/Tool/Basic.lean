/-
# Programs of the machine

A program is called with arguments, an input and the files, and replies with what it prints, an
exit code and the files as it leaves them.  It cannot see anything else.

Input may come without end, so that a program is first called with none of it and says what
it needs:

| need | the program is called |
| --- | --- |
| `nothing` | not again |
| `whole` | with all of the input |
| `lines` | for some lines at a time; the outputs are joined, and the least exit code counts |
| `more` | with more of the input, until it needs nothing or there is no more |
-/

import Doctest.Posix.Files
import Doctest.Posix.Tool.Quoting

namespace Doctest
namespace Tool

/-- How much of its input a program needs. -/
inductive Need where
  | nothing
  | whole
  | lines
  | more
deriving DecidableEq, Repr

/-- A call of a program: `input` is what has come so far, after as many lines as `linesBefore` that
have been dealt with, and `inputEnds` when there is no more. -/
structure Call where
  name : Octets
  arguments : List Octets
  input : Octets
  inputEnds : Bool
  linesBefore : Nat
  inputIsFile : Bool
  files : Files
  cwd : Place
  environment : List (Octets × Octets)
  now : Nat

/-- What a program replies. -/
structure Reply where
  output : Octets
  errors : Octets
  code : Nat
  files : Files
  need : Need

/-- Why a call of the operating system failed, in the words of the machine's programs. -/
def reason : IoError → Octets
  | .notFound => "No such file or directory".toList
  | .execFormat => "Exec format error".toList
  | .permissionDenied => "Permission denied".toList
  | .notDirectory => "Not a directory".toList
  | .isDirectory => "Is a directory".toList
  | .brokenPipe => "Broken pipe".toList
  | .nameTooLong => "File name too long".toList
  | .invalidUtf8 | .nulInPath | .nulInArgument => "Invalid argument".toList
  | .other text => Text.dropEnd " (os error 40)".toList (Octets.ofText text)

namespace Call

/-- A reply that prints something. -/
def reply (c : Call) (output : Octets) (code : Nat) : Reply := ⟨output, [], code, c.files, .nothing⟩

/-- A reply that complains and does nothing else. -/
def refuse (c : Call) (message : Octets) (code : Nat) : Reply :=
  ⟨[], c.name ++ ": ".toList ++ message ++ ['\n'], code, c.files, .nothing⟩

/-- A reply that complains about the arguments. -/
def usage (c : Call) (complaint : Octets) (code : Nat) : Reply :=
  { c.refuse complaint code with
    errors := c.name ++ ": ".toList ++ complaint ++ "\nTry '".toList ++ c.name ++
      " --help' for more information.\n".toList }

/-- Whether a path names the input. -/
def isInput (path : Octets) : Bool := path = ['-'] || path = "/dev/stdin".toList

/-- The contents at a path, or the input. -/
def source (c : Call) (path : Octets) : Except IoError Octets :=
  if isInput path then .ok c.input else c.files.read c.cwd path

/-- The complaint about a file that cannot be read, in the words of each program. -/
def cannotRead (c : Call) (p : Octets) (e : IoError) : Octets :=
  let what : Octets := match String.ofList c.name, e with
    | "head", .isDirectory | "tail", .isDirectory => "error reading ".toList ++ Quoting.always p
    | "head", _ | "tail", _ => "cannot open ".toList ++ Quoting.always p ++ " for reading".toList
    | "sort", _ => "cannot read: ".toList ++ Quoting.ifNeeded p
    | "sed", _ => "can't read ".toList ++ p
    | _, _ => Quoting.ifNeeded p
  c.name ++ ": ".toList ++ what ++ ": ".toList ++ reason e ++ ['\n']

/-- The contents of some files, or the input when none is named, with the complaints about those
that cannot be read. -/
def sources (c : Call) (paths : List Octets) : List (Octets × Octets) × Octets :=
  let paths := if paths = [] then [['-']] else paths
  paths.foldl (fun (found, complaints) p =>
    match c.source p with
    | .ok content => (found ++ [(p, content)], complaints)
    | .error e => (found, complaints ++ c.cannotRead p e)) ([], [])

/-- Whether the input is among the named files. -/
def readsInput (paths : List Octets) : Bool := paths = [] || paths.any isInput

/-- Whether there is nothing but the input. -/
def readsOnlyInput (paths : List Octets) : Bool := paths = [] || paths = [['-']]

/-- The need of a program that takes the named files as a whole. -/
def needOf (paths : List Octets) : Need := if readsInput paths then .whole else .nothing

/-- A program that turns the contents of each file into output. -/
def filter (c : Call) (paths : List Octets) (f : List (Octets × Octets) → Octets) : Reply :=
  let (found, complaints) := c.sources paths
  ⟨f found, complaints, if complaints = [] then 0 else 1, c.files, needOf paths⟩

/-- The same for a program that takes the files as one. -/
def filterAll (c : Call) (paths : List Octets) (f : Octets → Octets) : Reply :=
  c.filter paths fun found => f (found.flatMap Prod.snd)

/-- The same for a program that deals with each line by itself. -/
def filterLines (c : Call) (paths : List Octets) (f : Octets → Octets) : Reply :=
  let r := c.filterAll paths f
  if readsOnlyInput paths then { r with need := .lines } else r

end Call

/-- Arguments split into letters of options, values of options and the rest. -/
structure Arguments where
  letters : List Char
  values : List (Char × Octets)
  rest : List Octets

namespace Arguments

/-- The letters of one argument, and the first that takes a value with what follows it. -/
def readLetters (plain valued : String) :
    Octets → Except Octets (List Char × Option (Char × Octets))
  | [] => .ok ([], none)
  | c :: cs =>
    if valued.toList.contains c then .ok ([], some (c, cs))
    else if plain.toList.contains c then
      (readLetters plain valued cs).map fun (ls, v) => (c :: ls, v)
    else .error ("invalid option -- ".toList ++ ['\'', c, '\''])

/-- Splits arguments, perhaps after an option that waits for its value. -/
def readAfter (plain valued : String) : Option Char → List Octets → Except Octets Arguments
  | some c, [] => .error ("option requires an argument -- ".toList ++ ['\'', c, '\''])
  | none, [] => .ok ⟨[], [], []⟩
  | some c, value :: args => do
    let a ← readAfter plain valued none args
    return { a with values := (c, value) :: a.values }
  | none, ['-', '-'] :: args => .ok ⟨[], [], args⟩
  | none, ('-' :: '-' :: name) :: _ => .error ("unrecognized option ".toList ++ Quoting.text name)
  | none, ('-' :: c :: cs) :: args => do
    match ← readLetters plain valued (c :: cs) with
    | (ls, none) =>
      let a ← readAfter plain valued none args
      return { a with letters := ls ++ a.letters }
    | (ls, some (v, [])) =>
      let a ← readAfter plain valued (some v) args
      return { a with letters := ls ++ a.letters }
    | (ls, some (v, value)) =>
      let a ← readAfter plain valued none args
      return { a with letters := ls ++ a.letters, values := (v, value) :: a.values }
  | none, word :: args => do
    let a ← readAfter plain valued none args
    return { a with rest := word :: a.rest }

/-- Splits arguments by the letters of the options without and with a value; options may stand
behind operands. -/
def read (plain valued : String) (args : List Octets) : Except Octets Arguments :=
  readAfter plain valued none args

/-- Whether the letter was given. -/
def has (a : Arguments) (c : Char) : Bool := a.letters.contains c

/-- Whether one of the letters was given. -/
def hasAny (a : Arguments) (cs : String) : Bool := a.letters.any (cs.toList.contains ·)

/-- The value of an option, the last one if there are several. -/
def value? (a : Arguments) (c : Char) : Option Octets := a.values.reverse.lookup c

/-- All values of an option. -/
def valuesOf (a : Arguments) (c : Char) : List Octets :=
  a.values.filterMap fun v => if v.1 = c then some v.2 else none

/-- The complaint about the first option whose value is not a number; each is given with what it
counts. -/
def badNumber? (a : Arguments) (counts : List (Char × String)) : Option Octets :=
  counts.findSome? fun (c, what) => (a.value? c).bind fun t =>
    if (Octets.nat? t).isSome then none
    else some ("invalid ".toList ++ what.toList ++ ": ".toList ++ Quoting.text t)

end Arguments

/-- A program that knows the given options, and ends with some exit code when it is given others. -/
def Call.withArguments (c : Call) (plain valued : String) (code : Nat) (f : Arguments → Reply) :
    Reply :=
  match Arguments.read plain valued c.arguments with
  | .error e => c.usage e code
  | .ok a => f a

/-- The same for a program that knows no options. -/
def Call.withOperands (c : Call) (code : Nat) (f : List Octets → Reply) : Reply :=
  c.withArguments "" "" code fun a => f a.rest

end Tool
end Doctest
