/-
# Programs that change the files

| program | |
| --- | --- |
| `mkdir`, `rmdir`, `rm` | make and remove |
| `touch`, `chmod` | make an empty file, and one that can be run |
| `cp`, `mv`, `ln -s` | copy, move and link |

Each works through its operands and goes on after a complaint.
-/

import Doctest.Posix.Tool.Filters

namespace Doctest
namespace Tool

/-- How far a program that works on the files has come. -/
structure Progress where
  files : Files
  output : Octets
  errors : Octets
  failed : Bool

/-- A part of the work of such a program. -/
abbrev Work := StateM Progress

/-- Changes the files. -/
def Work.change (f : Files → Files) : Work Unit := modify fun p => { p with files := f p.files }

/-- The last name in a path. -/
def lastName (p : Octets) : Octets := ((Text.splitOn '/' p).filter (· ≠ [])).getLast?.getD p

/-- The path of a name in a directory. -/
def inDirectory (p name : Octets) : Octets :=
  if p.getLast? = some '/' then p ++ name else p ++ '/' :: name

/-- The tree without a place and whatever is below it. -/
def withoutTree (files : Files) (p : Place) : Files :=
  ⟨files.entries.filter fun e => !p.isPrefixOf e.1⟩

namespace Call

/-- Complains and goes on. -/
def blame (c : Call) (t : Octets) : Work Unit := modify fun p =>
  { p with errors := p.errors ++ c.name ++ ": ".toList ++ t ++ ['\n'], failed := true }

/-- Complains that something cannot be done to a path. -/
def cannot (c : Call) (what p : Octets) (e : IoError) : Work Unit :=
  c.blame ("cannot ".toList ++ what ++ [' '] ++ Quoting.always p ++ ": ".toList ++ reason e)

/-- Does all the work. -/
def work (c : Call) (act : Work Unit) : Reply :=
  let p := (act.run ⟨c.files, [], [], false⟩).2
  ⟨p.output, p.errors, if p.failed then 1 else 0, p.files, .nothing⟩

/-- Where a path leads; a link at its end counts as itself unless `follows`. -/
def destination (c : Call) (follows : Bool) (p : Octets) : Work (Except IoError Destination) :=
  return (← get).files.walkTo follows c.cwd p

/-- What a path leads to. -/
def seek (c : Call) (follows : Bool) (p : Octets) : Work (Except IoError (Place × Node)) := do
  match ← c.destination follows p with
  | .ok (.found place node) => return .ok (place, node)
  | .ok (.missing _) => return .error .notFound
  | .error e => return .error e

/-- Whether a path leads to a directory. -/
def isDirectory (c : Call) (p : Octets) : Work Bool := do
  match ← c.seek true p with
  | .ok (_, .directory) => return true
  | _ => return false

end Call

/-! ## Making and removing -/

/-- Removes files, with `-r` also directories. -/
def rm (c : Call) : Reply :=
  c.withArguments "frR" "" 1 fun a =>
    if a.rest = [] && !a.has 'f' then c.usage "missing operand".toList 1
    else c.work <| a.rest.forM fun p => do
      match ← c.seek false p with
      | .error e =>
        if !(a.has 'f' && (e = .notFound || e = .notDirectory)) then c.cannot "remove".toList p e
      | .ok (place, .directory) =>
        if !a.hasAny "rR" then c.cannot "remove".toList p .isDirectory
        else if [['.'], ['.', '.']].contains (lastName p) then
          c.blame ("refusing to remove '.' or '..' directory: skipping ".toList ++ Quoting.always p)
        else if place = [] then
          c.blame "it is dangerous to operate recursively on '/'".toList
          c.blame "use --no-preserve-root to override this failsafe".toList
        else Work.change (withoutTree · place)
      | .ok (place, _) => Work.change (·.erase place)

/-- Removes empty directories. -/
def rmdir (c : Call) : Reply :=
  c.withOperands 1 fun operands =>
    if operands = [] then c.usage "missing operand".toList 1
    else c.work <| operands.forM fun p => do
      let failed (e : Octets) : Work Unit :=
        c.blame ("failed to remove ".toList ++ Quoting.always p ++ ": ".toList ++ e)
      match ← c.seek false p with
      | .error e => failed (reason e)
      | .ok (place, .directory) =>
        if (← get).files.names place ≠ [] then failed "Directory not empty".toList
        else if lastName p = ['.'] then failed "Invalid argument".toList
        else Work.change (·.erase place)
      | .ok _ => failed (reason .notDirectory)

/-- The paths to the directories on the way to a path, and the path itself. -/
def pathsTo (p : Octets) : List Octets :=
  let pieces := Text.splitOn '/' (Text.trimEndWhile (· = '/') p)
  (List.range pieces.length).filterMap fun i =>
    let t := Text.join ['/'] (pieces.take (i + 1))
    if t = [] then none else some t

/-- Makes directories, with `-p` also those on the way. -/
def mkdir (c : Call) : Reply :=
  c.withArguments "p" "m" 1 fun a =>
    if a.rest = [] then c.usage "missing operand".toList 1
    else c.work <| a.rest.forM fun p => do
      let make (q : Octets) : Work Bool := do
        let failed (e : Octets) : Work Bool := do
          c.blame ("cannot create directory ".toList ++ Quoting.text q ++ ": ".toList ++ e)
          return false
        match ← c.destination true (if q = ['/'] then q else Text.trimEndWhile (· = '/') q) with
        | .error e => failed (reason e)
        | .ok (.missing place) =>
          Work.change (·.insert place .directory)
          return true
        | .ok (.found _ n) =>
          if a.has 'p' && n = .directory then return true else failed "File exists".toList
      let paths := if a.has 'p' then pathsTo p else [p]
      let _ ← paths.foldlM (fun (goesOn : Bool) q => if goesOn then make q else return false) true

/-! ## Changing what is there -/

/-- Makes empty files. -/
def touch (c : Call) : Reply :=
  c.withArguments "c" "" 1 fun a =>
    if a.rest = [] then c.usage "missing file operand".toList 1
    else c.work <| a.rest.forM fun p => do
      match ← c.destination true p with
      | .ok (.found ..) => return ()
      | .ok (.missing place) => if !a.has 'c' then Work.change (·.insert place (.file [] false))
      | .error e => c.cannot "touch".toList p e

/-- What a mode says about running a file that can be run or not; nothing if it is no mode. -/
def executable? (mode : Octets) (can : Bool) : Option Bool :=
  if mode ≠ [] && mode.all Octets.isOctal then some (mode.any fun d => d.toNat % 2 = 1)
  else match mode.dropWhile ("ugoa".toList.contains ·) with
    | sign :: rights =>
      let runs := rights.contains 'x'
      if !rights.all ("rwx".toList.contains ·) then none
      else match sign with
        | '+' => some (can || runs)
        | '-' => some (can && !runs)
        | '=' => some runs
        | _ => none
    | [] => none

/-- Makes files executable or not. -/
def chmod (c : Call) : Reply :=
  match c.arguments with
  | [] => c.usage "missing operand".toList 1
  | [mode] => c.usage ("missing operand after ".toList ++ Quoting.always mode) 1
  | mode :: paths =>
    if (executable? mode false).isNone then
      c.usage ("invalid mode: ".toList ++ Quoting.always mode) 1
    else c.work <| paths.forM fun p => do
      match ← c.seek true p with
      | .error e => c.cannot "access".toList p e
      | .ok (place, .file content can) =>
        Work.change (·.insert place (.file content ((executable? mode can).getD can)))
      | .ok _ => return ()

/-! ## Copying, moving and linking -/

/-- Applies an act to each source and the path that it goes to: into a directory under its own name,
or to the last operand itself. -/
def Call.eachTarget (c : Call) (operands : List Octets) (act : Octets → Octets → Work Unit) :
    Reply :=
  match operands with
  | [] => c.usage "missing file operand".toList 1
  | [p] => c.usage ("missing destination file operand after ".toList ++ Quoting.always p) 1
  | _ => c.work do
    let goal := operands.getLast?.getD []
    let sources := operands.dropLast
    if ← c.isDirectory goal then sources.forM fun s => act s (inDirectory goal (lastName s))
    else match sources with
      | [s] => act s goal
      | _ =>
        c.blame ("target ".toList ++ Quoting.always goal ++ ": ".toList ++ reason .notDirectory)

/-- Copies or moves what is at one place to another, unless one of them is a directory that cannot
take part. -/
def transfer (c : Call) (verb source goal : Octets) (moves deep : Bool) : Work Unit := do
  let failed (why : Octets) : Work Unit :=
    c.blame ("cannot ".toList ++ verb ++ [' '] ++ Quoting.always source ++ " to ".toList ++
      Quoting.always goal ++ ": ".toList ++ why)
  match ← c.seek (!moves) source, ← c.destination (!moves) goal with
  | .error e, _ => c.cannot "stat".toList source e
  | _, .error e => failed (reason e)
  | _, .ok (.found _ .directory) => failed (reason .isDirectory)
  | .ok (_, .directory), .ok (.found ..) => failed (reason .notDirectory)
  | .ok (from_, node), .ok (.found to_ _) =>
    if from_ = to_ then
      c.blame (Quoting.always source ++ " and ".toList ++ Quoting.always goal ++
        " are the same file".toList)
    else
      if moves then Work.change (·.erase from_)
      Work.change (·.insert to_ node)
  | .ok (from_, node), .ok (.missing to_) =>
    if node = .directory && !deep then
      c.blame ("-r not specified; omitting directory ".toList ++ Quoting.always source)
    else if from_.isPrefixOf to_ then failed "Invalid argument".toList
    else Work.change fun files =>
      let moved := files.entries.filterMap fun (p, n) =>
        if from_.isPrefixOf p then some (to_ ++ p.drop from_.length, n) else none
      ⟨moved ++ (if moves then withoutTree files from_ else files).entries⟩

/-- Copies files, with `-r` also directories. -/
def cp (c : Call) : Reply :=
  c.withArguments "afprR" "" 1 fun a => c.eachTarget a.rest fun source goal =>
    transfer c "copy".toList source goal false (a.hasAny "arR")

/-- Moves files and directories. -/
def mv (c : Call) : Reply :=
  c.withArguments "f" "" 1 fun a => c.eachTarget a.rest fun source goal =>
    transfer c "move".toList source goal true true

/-- Makes symbolic links. -/
def ln (c : Call) : Reply :=
  c.withArguments "sf" "" 1 fun a =>
    if !a.has 's' then c.refuse "only symbolic links can be made".toList 1
    else c.eachTarget a.rest fun source goal => do
      let failed (e : Octets) : Work Unit :=
        c.blame
          ("failed to create symbolic link ".toList ++ Quoting.always goal ++ ": ".toList ++ e)
      match ← c.destination false goal with
      | .error e => failed (reason e)
      | .ok (.missing place) => Work.change (·.insert place (.link source))
      | .ok (.found place n) =>
        if a.has 'f' && n ≠ .directory then Work.change (·.insert place (.link source))
        else failed "File exists".toList

end Tool
end Doctest
