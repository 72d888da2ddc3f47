/-
# What a name stands for

A name at the start of a command stands for the first of these that there is:

| | |
| --- | --- |
| a word of the grammar | where the script is read |
| a function | of the shell |
| a command of the shell's own | special ones keep their assignments |
| a program | the first of the name that can be run, on the path |
-/

import Doctest.Posix.Run
import Doctest.Posix.Shell.Reader

namespace Doctest
namespace Shell
namespace Lookup

/-- The shell's own commands whose assignments stay and whose failure ends the shell. -/
def specialNames : List Octets :=
  List.map String.toList [":", ".", "break", "continue", "eval", "exec", "exit", "export", "local",
    "readonly", "return", "set", "shift", "trap", "unset"]

/-- The other commands of the shell's own. -/
def ordinaryNames : List Octets :=
  List.map String.toList ["[", "cd", "chdir", "command", "echo", "false", "getopts", "kill",
    "printf", "pwd", "read", "test", "true", "type", "wait"]

/-- Whether a command of the shell's own is a special one. -/
def isSpecial (name : Octets) : Bool := specialNames.contains name

/-- The paths at which a program of a bare name may be, by a list of directories. -/
def candidates (path name : Octets) : List Octets :=
  (Text.splitOn ':' path).map fun dir => if dir = [] then name else dir ++ '/' :: name

/-- Where a program of a bare name is: the first executable file of that name on the path, or the
first one that cannot be run. -/
def programOn? (m : Machine) (path name : Octets) : Option Octets :=
  let files := (candidates path name).filter fun p =>
    (m.files.find? m.shell.cwd p).any Node.isFile
  (files.find? fun p => (m.files.find? m.shell.cwd p).any Node.isExecutable) <|> files.head?

/-- The directories in which programs are looked for. -/
def searchPath (m : Machine) : Octets := (m.shell.valueOf? "PATH".toList).getD []

/-- Where a program of a bare name is. -/
def program? (m : Machine) (name : Octets) : Option Octets := programOn? m (searchPath m) name

/-- Where a program is that is named by a path or by a bare name. -/
def path? (m : Machine) (name : Octets) : Option Octets :=
  if name.any (· = '/') then (if (m.files.find? m.shell.cwd name).isSome then some name else none)
  else program? m name

/-- What a name stands for, in words, when it stands for anything. -/
def described? (m : Machine) (name : Octets) : Option Octets :=
  if Reader.grammarWords.contains name then some " is a shell keyword".toList
  else if (m.shell.functions.lookup name).isSome then some " is a shell function".toList
  else if isSpecial name then some " is a special shell builtin".toList
  else if ordinaryNames.contains name then some " is a shell builtin".toList
  else (path? m name).map fun p => " is ".toList ++ p

/-- What a name stands for, as it can be called, when it stands for anything. -/
def callable? (m : Machine) (name : Octets) : Option Octets :=
  if Reader.grammarWords.contains name || (m.shell.functions.lookup name).isSome ||
      isSpecial name || ordinaryNames.contains name then some name
  else path? m name

end Lookup
end Shell
end Doctest
