/-
# Programs that take their time

Most programs reply to a call at once.  The ones here read and write piece by piece, wait, or run
other programs.

| program | |
| --- | --- |
| `cat`, `tee`, `head` | pass on what they read as it comes |
| `yes` | writes until nobody reads |
| `sleep` | waits |
| `env`, `xargs` | run another program |
-/

import Doctest.Posix.Run
import Doctest.Posix.Format
import Doctest.Posix.Tool.Tree

namespace Doctest
namespace Tool

/-- How programs are run by a program: in its place, which gives their exit code. -/
structure Runner where
  exec : Octets → List Octets → Run (Except IoError Nat)

/-- A program: one that replies at once, or one that takes its time. -/
inductive Program where
  | plain (f : Call → Reply)
  | active (f : Runner → Call → Run Nat)

/-- Number of bytes of input from which on a program that needs all of it is taken to wait
for ever. -/
def inputLimit : Nat := 16777216

/-- A time that never comes. -/
def never : Nat := 1000000000000000000000

/-- More of the input, in pieces, the latest first, until there are so many bytes or it ends; and
whether it has ended.  `fuel` bounds the pieces. -/
def gather (least : Nat) : Nat → List Octets → Nat → Run (List Octets × Bool)
  | 0, pieces, _ => return (pieces, true)
  | fuel + 1, pieces, size => do
    if least ≤ size then return (pieces, false)
    match ← Run.readSome 0 Run.blockSize with
    | [] => return (pieces, true)
    | t =>
      Run.tick Run.stepTime
      gather least fuel (t :: pieces) (size + t.length)

/-- Writes what a program replies, and returns its exit code. -/
def Reply.send (r : Reply) : Run Nat := do
  Run.write 1 r.output
  Run.write 2 r.errors
  return r.code

/-- Takes over the files of a reply and writes it. -/
def conclude (r : Reply) : Run Nat := do
  modify fun m => { m with files := r.files }
  r.send

/-- Calls a program with all of the input. -/
def replyWhole (f : Call → Reply) (c : Call) : Run Nat := do
  let (pieces, ended) ← gather inputLimit Run.pieceLimit [] 0
  if !ended then Run.pause (.at_ never)
  conclude (f { c with input := pieces.reverse.flatten, inputEnds := true, files := (← get).files })

/-- Calls a program for some lines at a time. -/
def replyLines (f : Call → Reply) (c : Call) : Nat → Octets → Nat → Run Nat
  | 0, _, code => return code
  | fuel + 1, start, code => do
    match ← Run.readSome 0 Run.blockSize with
    | [] =>
      if start = [] then return code
      else return min code (← (f { c with input := start, inputEnds := true }).send)
    | piece =>
      Run.tick Run.stepTime
      let t := start ++ piece
      let open_ := (t.reverse.takeWhile (· ≠ '\n')).reverse
      let ready := t.take (t.length - open_.length)
      let lines := ready.count '\n'
      let code ← if ready = [] then pure code
        else min code <$> (f { c with input := ready }).send
      replyLines f { c with linesBefore := c.linesBefore + lines } fuel open_ code

/-- Calls a program with more and more of the input, until that is enough. -/
def replyStart (f : Call → Reply) (c : Call) : Nat → List Octets → Nat → Run Nat
  | 0, _, _ => return 1
  | fuel + 1, pieces, size => do
    let (pieces, ended) ← gather (2 * size + 1) Run.pieceLimit pieces size
    let t := pieces.reverse.flatten
    let open_ := if ended then 0 else (t.reverse.takeWhile (· ≠ '\n')).length
    let ready := t.take (t.length - open_)
    let r := f { c with input := ready, inputEnds := ended, files := (← get).files }
    if r.need = .more && !ended then
      if inputLimit < t.length then Run.pause (.at_ never)
      replyStart f c fuel [t] t.length
    else conclude r

/-- Calls a program that replies at once, with as much of the input as it needs. -/
def reply (f : Call → Reply) (c : Call) : Run Nat := do
  let r := f c
  match r.need with
  | .nothing => conclude r
  | .whole => replyWhole f c
  | .lines => replyLines f c Run.pieceLimit [] r.code
  | .more => replyStart f c Run.pieceLimit [] 0

/-- A complaint of a program. -/
def complain (c : Call) (message : Octets) : Run Unit :=
  Run.write 2 (c.name ++ ": ".toList ++ message ++ ['\n'])

/-- A complaint about the arguments, after which the program ends. -/
def misuse (c : Call) (message : Octets) (code : Nat) : Run Nat := do
  Run.write 2 (c.usage message code).errors
  return code

/-- Opens the file that an operand names, or takes the input. -/
def openOperand (path : Octets) : Run (Except IoError Nat) := do
  if path = ['-'] then
    match ← Run.stream? 0 with
    | some (i, _) => return .ok i
    | none => return .error .notFound
  else
    let m ← get
    match m.files.walk m.shell.cwd path with
    | .ok (.found _ .directory) => return .error .isDirectory
    | _ => Run.openFile path true false false

/-- Passes on all pieces of a stream; `fuel` bounds them. -/
def passOn (act : Octets → Run Unit) (i : Nat) : Nat → Run Unit
  | 0 => return ()
  | fuel + 1 => do
    match ← Run.readFrom i Run.blockSize with
    | [] => return ()
    | t =>
      Run.tick Run.stepTime
      act t
      passOn act i fuel

/-- Prints the files one after the other, as they come. -/
def catAll (c : Call) (paths : List Octets) : Run Nat :=
  paths.foldlM (fun code p => do
    match ← openOperand p with
    | .ok i =>
      passOn (Run.write 1) i Run.pieceLimit
      return code
    | .error e =>
      Run.write 2 (c.cannotRead p e)
      return 1) 0

/-- Prints the files one after the other. -/
def cat (_ : Runner) (c : Call) : Run Nat :=
  match Arguments.read "u" "" c.arguments with
  | .ok a => catAll c (if a.rest = [] then [['-']] else a.rest)
  | .error _ => reply catWithOptions c

/-- Copies the input to the output and to files, as it comes. -/
def tee (_ : Runner) (c : Call) : Run Nat := do
  match Arguments.read "ai" "" c.arguments with
  | .error e => misuse c e 1
  | .ok a =>
    let opened ← a.rest.mapM fun p => do return (p, ← Run.openFile p false (a.has 'a') (!a.has 'a'))
    let failed := opened.filterMap fun (p, r) => match r with
      | .error e => some (p ++ ": ".toList ++ reason e)
      | .ok _ => none
    failed.forM (complain c)
    let numbered := (opened.filterMap fun r => r.2.toOption).zipIdx 100
    numbered.forM fun (i, n) => Run.connect n (some i)
    let all (t : Octets) : Run Unit := do
      Run.write 1 t
      numbered.forM fun (_, n) => Run.write n t
    match ← Run.stream? 0 with
    | some (i, _) => passOn all i Run.pieceLimit
    | none => pure ()
    return if failed = [] then 0 else 1

/-- Prints so many lines or bytes of a stream, as they come; bytes beyond them are put back where
that is possible. -/
def headOf (i : Nat) (ofBytes : Bool) : Nat → Nat → Run Unit
  | 0, _ | _, 0 => return ()
  | fuel + 1, left => do
    match ← Run.readFrom i (if ofBytes then min left 8192 else 8192) with
    | [] => return ()
    | t =>
      Run.tick Run.stepTime
      if ofBytes then
        Run.write 1 t
        headOf i ofBytes fuel (left - t.length)
      else
        let ls := Octets.rawLines t
        let shown := (ls.take left).flatten
        Run.write 1 shown
        Run.restore i (t.drop shown.length)
        let whole := if t.getLast? = some '\n' then ls.length else ls.length - 1
        headOf i ofBytes fuel (left - whole)

/-- Prints the start of each file, under its name when there are several. -/
def head (_ : Runner) (c : Call) : Run Nat := do
  match Extent.ofArguments c.arguments with
  | .error (e, offersHelp) =>
    if offersHelp then misuse c e 1
    else
      complain c e
      return 1
  | .ok (e, titled?, paths) =>
    if e.sign = some '-' then reply (part Extent.head) c
    else
      let paths := if paths = [] then [['-']] else paths
      let titled := titled?.getD (1 < paths.length)
      let (code, _) ← paths.foldlM (fun ((code, first) : Nat × Bool) p => do
        match ← openOperand p with
        | .ok i =>
          if titled then Run.write 1 (Extent.title first p)
          headOf i e.ofBytes Run.pieceLimit e.count
          return (code, false)
        | .error e =>
          Run.write 2 (c.cannotRead p e)
          return (1, first)) (0, true)
      return code

/-- Writes the same block again and again; `fuel` bounds how often. -/
def writeForever (block : Octets) : Nat → Run Nat
  | 0 => return 0
  | fuel + 1 => do
    Run.tick Run.stepTime
    if ← Run.write? 1 block then writeForever block fuel else return 1

/-- Prints the same line again and again. -/
def yes (_ : Runner) (c : Call) : Run Nat :=
  let line := (if c.arguments = [] then ['y'] else Text.join [' '] c.arguments) ++ ['\n']
  writeForever (List.replicate (8192 / line.length + 1) line).flatten Run.pieceLimit

/-- A number of seconds, perhaps with a fraction, in nanoseconds. -/
def seconds? (t : Octets) : Option Nat :=
  let (whole, fraction) := (t.takeWhile (· ≠ '.'), (t.dropWhile (· ≠ '.')).drop 1)
  if whole ++ fraction ≠ [] && (whole ++ fraction).all Octets.isDigit then
    let nanos := (fraction ++ List.replicate 9 '0').take 9
    some (Octets.digitsValue 10 whole * 1000000000 + Octets.digitsValue 10 nanos)
  else none

/-- Does nothing for some time. -/
def sleep (_ : Runner) (c : Call) : Run Nat := do
  match c.arguments.mapM seconds?, c.arguments.find? fun a => (seconds? a).isNone with
  | some [], _ => misuse c "missing operand".toList 1
  | none, bad? => misuse c ("invalid time interval ".toList ++ Quoting.text (bad?.getD [])) 1
  | some ts, _ =>
    Run.pause (.at_ ((← get).now + ts.foldl (· + ·) 0))
    return 0

/-! ## Programs that run others -/

/-- Runs a program in place of this one, and complains if it cannot be run. -/
def execOr (r : Runner) (c : Call) (name : Octets) (args : List Octets) : Run Nat := do
  match ← r.exec name args with
  | .ok code => return code
  | .error e =>
    complain c (['\''] ++ name ++ "': ".toList ++ reason e)
    return if e = .notFound then 127 else 126

/-- A name and its value in a word that sets a variable. -/
def binding? (a : Octets) : Option (Octets × Octets) :=
  let name := a.takeWhile (· ≠ '=')
  match a.drop name.length with
  | _ :: value => if name = [] then none else some (name, value)
  | [] => none

/-- Makes a variable visible to programs. -/
def exportValue (name value : Octets) : Run Unit :=
  Run.modifyShell fun s => s.setVariable name ⟨some value, true, false⟩

/-- Runs a program with other variables, or prints them. -/
def env (r : Runner) (c : Call) : Run Nat := go c.arguments
where
  /-- Does what the arguments ask for. -/
  go : List Octets → Run Nat
    | [] => do
      Run.write 1 (unlines ((← Run.environment).map fun (n, v) => n ++ '=' :: v))
      return 0
    | ['-', 'i'] :: more => do
      Run.modifyShell fun s => { s with bindings := [] }
      go more
    | ['-', 'u'] :: name :: more => do
      Run.modifyShell fun s => { s with bindings := s.bindings.filter (·.1 ≠ name) }
      go more
    | ('-' :: option) :: _ => misuse c ("invalid option -- ".toList ++ Quoting.text option) 125
    | a :: more =>
      match binding? a with
      | some (name, value) => do
        exportValue name value
        go more
      | none => execOr r c a more

/-- Every occurrence of a text replaced by another; `fuel` bounds the bytes. -/
def replaceAll (old new : Octets) : Nat → Octets → Octets
  | 0, t => t
  | _, [] => []
  | fuel + 1, c :: t =>
    match Text.afterStart? old (c :: t) with
    | some rest => if old = [] then c :: t else new ++ replaceAll old new fuel rest
    | none => c :: replaceAll old new fuel t

/-- The calls that `xargs` makes for its input, or a complaint.  With `-n` each takes so many words,
and with `-I` each takes a line in the place of a mark. -/
def calls (args : List Octets) (input : Octets) : Except Octets (List (List Octets)) :=
  let command (words : List Octets) : List Octets := if words = [] then ["echo".toList] else words
  match args with
  | ['-', 'I'] :: mark :: words => .ok <| ((Octets.lines input).filter (· ≠ [])).map fun l =>
    (command words).map fun w => replaceAll mark l (w.length + 1) w
  | ['-', 'n'] :: n :: words =>
    match Octets.nat? n with
    | none | some 0 => .error ("invalid number ".toList ++ Quoting.text n)
    | some n => .ok <| (Octets.chunks n (input.length + 1) (Octets.words input)).map
      (command words ++ ·)
  | ('-' :: option) :: _ => .error ("invalid option -- ".toList ++ Quoting.text option)
  | words => .ok [command words ++ Octets.words input]

/-- Runs a program on words that it reads. -/
def xargs (r : Runner) (c : Call) : Run Nat := do
  match calls c.arguments (← Run.readAll 0) with
  | .error e => misuse c e 1
  | .ok calls => Run.withStreams do
    let i ← Run.openStream ⟨.null, 0, false⟩
    Run.connect 0 (some i)
    runAll calls 0
where
  /-- Runs the calls one after the other, as long as none of them asks for an end. -/
  runAll : List (List Octets) → Nat → Run Nat
    | [], code => return code
    | [] :: calls, code => runAll calls code
    | (name :: args) :: calls, code => do
      let pid ← Run.fork (fun s => { s with held := [] }) (execOr r c name args)
      match ← Run.waitFor pid with
      | .exited 0 => runAll calls code
      | .exited 255 =>
        complain c (name ++ ": exited with status 255; aborting".toList)
        return 124
      | .exited n => if n = 126 || n = 127 then return n else runAll calls 123
      | .signaled n =>
        complain c (name ++ ": terminated by signal ".toList ++ Text.ofNat n)
        return 125

end Tool
end Doctest
