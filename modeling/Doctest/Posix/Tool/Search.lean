/-
# Finding lines

`grep` prints the lines that an expression matches.
-/

import Doctest.Posix.Tool.Filters
import Doctest.Posix.Regex

namespace Doctest
namespace Tool
namespace Search

/-- The expression that matches a text and nothing else. -/
def literal (t : Octets) : Regex := (t.map fun c => Regex.one (.single c)).foldr .both .empty

/-- A pattern as an expression; the letters of the options tell how it is read. -/
def compile? (a : Arguments) (t : Octets) : Option Regex :=
  let re? := if a.has 'F' then some (literal t) else Regex.ofText? (a.has 'E') t
  re?.map fun r =>
    let r := if a.has 'i' then r.foldCase else r
    if a.has 'x' then .both .start (.both (.group 0 r) .stop)
    else if a.has 'w' then
      .both (.look (some false) none) (.both (.group 0 r) (.look none (some false)))
    else r

/-- What is printed for a file, and how many of its lines were looked for. -/
def report (a : Arguments) (r : Regex) (linesBefore : Nat) (titled : Bool) (name t : Octets) :
    Octets × Nat :=
  let hits := ((Octets.lines t).zipIdx (linesBefore + 1)).filter fun (l, _) =>
    r.isMatch l != a.has 'v'
  let title := if titled then name ++ [':'] else []
  let row (l : Octets) (n : Nat) : List Octets :=
    let front := title ++ (if a.has 'n' then Text.ofNat n ++ [':'] else [])
    if !a.has 'o' then [front ++ l]
    else (r.findAll l (l.length + 1) 0).map fun m => front ++ m.group l 0
  let shown := if a.has 'q' then []
    else if a.has 'l' then (if hits = [] then [] else [name])
    else if a.has 'c' then [title ++ Text.ofNat hits.length]
    else hits.flatMap fun (l, n) => row l n
  (unlines shown, hits.length)

end Search

open Search in
/-- Prints the lines that match. -/
def grep (c : Call) : Reply :=
  c.withArguments "EFivwxcnlqsoh" "e" 2 fun a =>
    let given := a.valuesOf 'e'
    let (patterns, paths) := if given = [] then (a.rest.take 1, a.rest.drop 1) else (given, a.rest)
    match (patterns.flatMap (Octets.split '\n')).mapM (compile? a) with
    | none => c.refuse "Invalid regular expression".toList 2
    | some [] => c.usage "missing operand".toList 2
    | some (r :: rs) =>
      let (found, complaints) := c.sources paths
      let reports := found.map fun (p, t) =>
        report a (rs.foldl .either r) c.linesBefore (1 < paths.length && !a.has 'h')
          (if p = ['-'] then "(standard input)".toList else p) t
      let matched : Bool := reports.any fun (_, hits) => hits ≠ 0
      let need : Need :=
        if !Call.readsOnlyInput paths then Call.needOf paths
        else if a.hasAny "ql" then (if matched then .nothing else .more)
        else if a.has 'c' then .whole
        else .lines
      ⟨reports.flatMap Prod.fst, if a.has 's' then [] else complaints,
        if complaints ≠ [] && !(a.has 'q' && matched) then 2 else if matched then 0 else 1,
        c.files, need⟩

end Tool
end Doctest
