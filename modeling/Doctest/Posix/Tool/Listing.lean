/-
# Programs that look at the files

`ls` tells what there is, `basename` and `dirname` take paths apart without a look at the files, and
`pwd` tells the directory.
-/

import Doctest.Posix.Tool.Tree

namespace Doctest
namespace Tool

/-- Lists files and what is in directories, one name a line. -/
def ls (c : Call) : Reply :=
  c.withArguments "aA1dr" "" 2 fun a =>
    let operands := if a.rest = [] then [['.']] else a.rest
    let order (names : List Octets) : List Octets :=
      let names := names.mergeSort fun x y => !(y.map Char.toNat < x.map Char.toNat)
      if a.has 'r' then names.reverse else names
    let inside (place : Place) : Octets :=
      let all := c.files.names place
      unlines <| order <| if a.has 'a' then ['.'] :: ['.', '.'] :: all
        else if a.has 'A' then all else all.filter (·.head? ≠ some '.')
    let found := (order operands).map fun p => (p, c.files.walk c.cwd p)
    let complaints := found.flatMap fun (p, r) =>
      let complaint (e : IoError) : Octets :=
        c.name ++ ": cannot access ".toList ++ Quoting.always p ++ ": ".toList ++ reason e ++ ['\n']
      match r with
      | .error e => complaint e
      | .ok (.missing _) => complaint .notFound
      | .ok (.found ..) => []
    let files := found.filterMap fun (p, r) => match r with
      | .ok (.found _ .directory) => if a.has 'd' then some p else none
      | .ok (.found ..) => some p
      | _ => none
    let directories := found.filterMap fun (p, r) => match r with
      | .ok (.found place .directory) => if a.has 'd' then none else some (p, place)
      | _ => none
    let titled : Bool := 1 < operands.length
    let parts := directories.map fun (p, place) =>
      (if titled then p ++ ":\n".toList else []) ++ inside place
    ⟨Text.join ['\n'] (if files = [] then parts else unlines files :: parts), complaints,
      if complaints = [] then 0 else 2, c.files, .nothing⟩

/-- The last name of a path, without an ending. -/
def baseName (p ending : Octets) : Octets :=
  let stripped := Text.trimEndWhile (· = '/') p
  let name :=
    if p ≠ [] && stripped = [] then ['/'] else (Text.splitOn '/' stripped).getLast?.getD []
  if ending = name then name else Text.dropEnd ending name

/-- The last name of a path. -/
def basename (c : Call) : Reply :=
  c.withOperands 1 fun operands => match operands with
    | [] => c.usage "missing operand".toList 1
    | [p] => c.reply (baseName p [] ++ ['\n']) 0
    | [p, ending] => c.reply (baseName p ending ++ ['\n']) 0
    | _ :: _ :: extra :: _ => c.usage ("extra operand ".toList ++ Quoting.always extra) 1

/-- Paths without their last names. -/
def dirname (c : Call) : Reply :=
  c.withOperands 1 fun operands =>
    let parent (p : Octets) : Octets :=
      let stripped := Text.trimEndWhile (· = '/') p
      let before := Text.trimEndWhile (· = '/') (Text.trimEndWhile (· ≠ '/') stripped)
      if stripped.any (· = '/') then (if before = [] then ['/'] else before)
      else if p ≠ [] && stripped = [] then ['/'] else ['.']
    if operands = [] then c.usage "missing operand".toList 1
    else c.reply (unlines (operands.map parent)) 0

/-- Prints the path of the directory. -/
def pwd (c : Call) : Reply := c.reply (Files.pathTo c.cwd ++ ['\n']) 0

end Tool
end Doctest
