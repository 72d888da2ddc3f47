/-
# Finding an executable

| program | is |
| --- | --- |
| more than one component | that file, from the root, if it is a regular file |
| a bare name | the first entry of `PATH` in which the name is a regular file |

An empty entry of `PATH` is the working directory.  Later entries do not matter once one has the
file, and `PATH` plays no part for a path of several components.
-/

import Doctest.Host.Basic

namespace Doctest
namespace Host

variable {m : Type → Type} [Monad m]

/-- The path from the root.  There is none if the working directory is needed and cannot be had. -/
def absolute? (h : Host m) (p : Path) : m (Option Path) := do
  if p.isAbsolute then return Path.absolute? [] p
  else
    match ← h.workingDirectory with
    | .ok cwd => return Path.absolute? cwd p
    | .error _ => return none

/-- The first of the paths that is a regular file. -/
def firstFile? (h : Host m) : List Path → m (Option Path)
  | [] => pure none
  | p :: ps => do
    if ← h.isFile p then return some p else firstFile? h ps

/-- A file given by its path. -/
def resolveFile (h : Host m) (p : Path) : m (Option Path) := do
  if ← h.isFile p then h.absolute? p else return none

/-- A program searched for in the entries of `PATH`. -/
def searchPath (h : Host m) (file : Path) : m (Option Path) := do
  match ← h.environment? "PATH".toList with
  | none => return none
  | some list =>
    match ← h.firstFile? ((Path.searchList list).map (Path.join · file)) with
    | none => return none
    | some p => h.absolute? p

/-- The executable that a program string names. -/
def resolve (h : Host m) (program : Text) : m (Option Path) :=
  let file := Path.ofText (Path.programFile h.byEnding program)
  if file.isCompound then h.resolveFile file else h.searchPath file

/-- The executable that a configured path names: the path as it is, or a bare name as it is
shown. -/
def resolveConfigured (h : Host m) (p : Path) : m (Option Path) :=
  if p.isCompound then h.resolveFile p else h.resolve p.display

end Host
end Doctest
