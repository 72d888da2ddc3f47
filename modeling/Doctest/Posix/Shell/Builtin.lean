/-
# Commands that the shell does itself

| commands | |
| --- | --- |
| `:` `true` `false` `echo` `printf` `test` `[` | as the programs of these names |
| `cd` `pwd` | the working directory |
| `set` `shift` `export` `readonly` `local` `unset` `read` `getopts` | variables and arguments |
| `kill` `trap` `wait` | signals and processes |
| `type` | names |
| `exit` `return` `break` `continue` | leave something |

The commands that run other commands are not here.
-/

import Doctest.Posix.Shell.Expansion
import Doctest.Posix.Shell.Lookup
import Doctest.Posix.Shell.Signal
import Doctest.Posix.Condition

namespace Doctest
namespace Shell
namespace Builtin

/-- Something that the shell does with arguments; it returns an exit code. -/
abbrev Action := List Octets → Run Nat

/-- Complains under the name of a command. -/
def complain (name message : Octets) : Run Unit :=
  Run.complain (name ++ ": ".toList ++ message)

/-- Ends the shell after a complaint about a command that has to succeed. -/
def fatal {α : Type} (name message : Octets) : Run α := do
  complain name message
  Run.leave (.exit 2)

/-- Writes the output of a command and tells whether that was possible. -/
def say (name t : Octets) (code : Nat) : Run Nat := do
  if ← Run.write? 1 t then return code
  else
    complain name "I/O error".toList
    return 1

/-- A text between single quotation marks, so that the shell reads it back. -/
def singleQuoted (t : Octets) : Octets :=
  ['\''] ++ (t.flatMap fun c => if c = '\'' then "'\"'\"'".toList else [c]) ++ ['\'']

/-! ## Printing and testing -/

/-- Prints text. -/
def echo : Action := fun args => say "echo".toList (Format.echo args) 0

/-- Prints a format. -/
def printf : Action := fun args => do
  match args with
  | ('-' :: c :: cs) :: more =>
    if c :: cs = ['-'] then formatted more
    else fatal "printf".toList ("Illegal option -".toList ++ [c])
  | args => formatted args
where
  /-- Prints a format and its arguments. -/
  formatted : List Octets → Run Nat
    | [] => do
      Run.complain "printf: usage: printf format [arg ...]".toList
      return 2
    | format :: args => do
      let (output, flaws) := Format.print .shell format args
      let code ← say "printf".toList output 0
      flaws.forM fun e => complain "printf".toList e.message
      return if flaws = [] then code else if flaws.all (·.isNumeric) then 1 else 2

/-- Tests a condition under one of its two names. -/
def testAs (name : Octets) : Action := fun args => do
  let m ← get
  match Condition.evaluate ⟨m.files, m.shell.cwd⟩ false args with
  | .ok true => return 0
  | .ok false => return 1
  | .error e =>
    complain name e
    return 2

/-- Tests a condition in brackets. -/
def bracket : Action := fun args => do
  if args.getLast? = some [']'] then testAs ['['] args.dropLast
  else
    complain ['['] "missing ]".toList
    return 2

/-! ## What the shell knows -/

/-- Goes to a directory; a dash stands for the latest one before this. -/
def cd : Action := fun args => do
  let s ← Run.shell
  let operands := args.filter fun a => a ≠ "--".toList && a ≠ "-P".toList && a ≠ "-L".toList
  let back : Bool := operands = [['-']]
  let path? := if back then s.valueOf? "OLDPWD".toList
    else operands.head? <|> s.valueOf? "HOME".toList
  match path? with
  | none =>
    complain "cd".toList (if back then "OLDPWD not set".toList else "HOME not set".toList)
    return 2
  | some path =>
    let m ← get
    match m.files.walk s.cwd (if path = [] then ['.'] else path) with
    | .ok (.found place .directory) =>
      let old := (s.valueOf? "PWD".toList).getD (Files.pathTo s.cwd)
      Run.modifyShell fun s => { s with cwd := place }
      Run.assign "OLDPWD".toList old
      Run.assign "PWD".toList (Files.pathTo place)
      Run.modifyShell (·.exportAll ["OLDPWD".toList, "PWD".toList])
      if back then Run.write 1 (Files.pathTo place ++ ['\n'])
      return 0
    | _ =>
      complain "cd".toList ("can't cd to ".toList ++ path)
      return 2

/-- Prints the working directory. -/
def pwd : Action := fun _ => do
  Run.write 1 (Files.pathTo (← Run.shell).cwd ++ ['\n'])
  return 0

/-- A name and, after an equals sign, a value. -/
def binding (t : Octets) : Octets × Option Octets :=
  let name := t.takeWhile (· ≠ '=')
  (name, (t.drop name.length).tail?)

/-- Tells what names stand for. -/
def type : Action := fun names => do
  names.foldlM (fun code name => do
    let m ← get
    match Lookup.described? m name with
    | some t =>
      Run.write 1 (name ++ t ++ ['\n'])
      return code
    | none =>
      Run.write 1 (name ++ ": not found\n".toList)
      return 127) 0

/-! ## Variables and arguments -/

/-- The letters of the flags. -/
def flagLetters : List Char := "abefimnpsuvxCEIV".toList

/-- Sets or clears flags. -/
def setFlags (on : Bool) (letters : List Char) : Run Unit := Run.modifyShell fun s =>
  let others := s.flags.filter (!letters.contains ·)
  { s with flags := if on then others ++ letters else others }

/-- All variables as assignments, sorted by their names. -/
def listVariables (front : Octets) (keep : Variable → Bool) : Run Unit := do
  let chosen := (← Run.shell).bindings.filter fun b => keep b.2
  let sorted := chosen.mergeSort fun a b => !(b.1.map Char.toNat < a.1.map Char.toNat)
  Run.write 1 (sorted.flatMap fun (n, v) => front ++ n ++ match v.value? with
    | some t => '=' :: singleQuoted t ++ ['\n']
    | none => ['\n'])

/-- Sets flags and arguments. -/
def set : Action
  | [] => do
    listVariables [] fun v => v.value?.isSome
    return 0
  | ['-', '-'] :: args => do
    Run.modifyShell fun s => { s with positional := args }
    return 0
  | ['-'] :: args => do
    setFlags false ['x', 'v']
    if args ≠ [] then Run.modifyShell fun s => { s with positional := args }
    return 0
  | (sign :: letters) :: args => do
    if sign ≠ '-' && sign ≠ '+' then
      Run.modifyShell fun s => { s with positional := (sign :: letters) :: args }
      return 0
    else
      setFlags (sign = '-') letters
      match letters.find? (!flagLetters.contains ·) with
      | some c => fatal "set".toList ("Illegal option ".toList ++ [sign, c])
      | none => if args = [] then return 0 else set args
  | args => do
    Run.modifyShell fun s => { s with positional := args }
    return 0

/-- Drops arguments from the front. -/
def shift : Action := fun args => do
  let n ← match args.head? with
    | none => pure 1
    | some t => match Octets.nat? t with
      | some n => pure n
      | none => fatal "shift".toList ("Illegal number: ".toList ++ t)
  if (← Run.shell).positional.length < n then fatal "shift".toList "can't shift that many".toList
  else
    Run.modifyShell fun s => { s with positional := s.positional.drop n }
    return 0

/-- Changes how variables are kept, and their values where some are given. -/
def mark (command : Octets) (change : Variable → Variable) (args : List Octets) : Run Nat := do
  for arg in args do
    let (name, value?) := binding arg
    if !isName name then fatal command (name ++ ": bad variable name".toList)
    match value? with
    | some value => Run.assign name value
    | none => pure ()
    Run.modifyShell fun s =>
      s.setVariable name (change ((s.bindings.lookup name).getD ⟨none, false, false⟩))
  return 0

/-- Makes variables visible to programs, or prints those that are. -/
def «export» : Action := fun args => do
  let operands := args.filter fun a => a ≠ "-p".toList && a ≠ "--".toList
  if operands = [] then
    listVariables "export ".toList (·.exported)
    return 0
  else mark "export".toList (fun v => { v with exported := true }) operands

/-- Fixes the values of variables, or prints those that are fixed. -/
def «readonly» : Action := fun args => do
  let operands := args.filter fun a => a ≠ "-p".toList && a ≠ "--".toList
  if operands = [] then
    listVariables "readonly ".toList (·.fixed)
    return 0
  else mark "readonly".toList (fun v => { v with fixed := true }) operands

/-- Makes variables the function's own: they get their old values back when it is left. -/
def «local» : Action := fun args => do
  if (← Run.shell).calls = 0 then fatal "local".toList "not in a function".toList
  for arg in args do
    let (name, value?) := binding arg
    Run.modifyShell fun s => { s with locals := (name, s.bindings.lookup name) :: s.locals }
    match value? with
    | some value => Run.assign name value
    | none => pure ()
  return 0

/-- Takes variables and functions away. -/
def unset : Action := fun args => do
  let functions : Bool := args.head? = some "-f".toList
  for name in args.filter (·.head? ≠ some '-') do
    if functions then
      Run.modifyShell fun s => { s with functions := s.functions.filter (·.1 ≠ name) }
    else if !isName name then fatal "unset".toList (name ++ ": bad variable name".toList)
    else
      let s ← Run.shell
      match s.bindings.lookup name with
      | some v =>
        if v.fixed then fatal "unset".toList (name ++ ": is read only".toList)
        Run.modifyShell (·.unassign name)
      | none => Run.modifyShell fun s => { s with functions := s.functions.filter (·.1 ≠ name) }
  return 0

/-- The first line of a text, without its line feed, how many bytes it takes, and whether it had
one.  Unless the text is raw a backslash keeps the byte after it, which is marked, and joins
lines. -/
def readLine (raw : Bool) : Octets → Field × Nat × Bool
  | [] => ([], 0, false)
  | '\n' :: _ => ([], 1, true)
  | '\\' :: c :: t =>
    if raw then
      let (l, n, ended) := readLine raw (c :: t)
      (⟨'\\', true⟩ :: l, n + 1, ended)
    else
      let (l, n, ended) := readLine raw t
      (if c = '\n' then l else ⟨c, false⟩ :: l, n + 2, ended)
  | c :: t =>
    let (l, n, ended) := readLine raw t
    (⟨c, true⟩ :: l, n + 1, ended)

/-- Takes a line off the input and no more; `fuel` bounds the pieces in which it comes. -/
def takeLine (raw : Bool) : Nat → Octets → Run (Field × Bool)
  | 0, _ => return ([], false)
  | fuel + 1, start => do
    match ← Run.readSome 0 Run.blockSize with
    | [] =>
      let (line, _, ended) := readLine raw start
      return (line, ended)
    | piece =>
      let t := start ++ piece
      let (line, bytes, ended) := readLine raw t
      if ended then
        Run.unread 0 (t.drop bytes)
        return (line, true)
      else takeLine raw fuel t

/-- Gives the fields of a line to variables, all that is left to the last one. -/
def distribute (separators : Octets) : Nat → Field → List Octets → Run Unit
  | 0, _, _ => return ()
  | fuel + 1, line, names => do
    let isBlank (g : Glyph) : Bool := g.live && (g.char = ' ' || g.char = '\t' || g.char = '\n') &&
      separators.any (· = g.char)
    let separates (g : Glyph) : Bool := g.live && separators.any (· = g.char)
    let line := line.dropWhile isBlank
    match names with
    | [] => return ()
    | [name] =>
      let value := (line.reverse.dropWhile isBlank).reverse
      let first := value.takeWhile (!separates ·)
      let after := (value.drop first.length).dropWhile isBlank
      let value := if after.length = 1 && after.all separates then first else value
      Run.assign name (value.map (·.char))
    | name :: names =>
      let first := line.takeWhile (!separates ·)
      let after := (line.drop first.length).dropWhile isBlank
      let after := match after with
        | g :: rest => if separates g then rest else after
        | [] => []
      Run.assign name (first.map (·.char))
      distribute separators fuel after names

/-- The options of `read`: whether the line is raw, and what is left of the arguments. -/
def readOptions : List Octets → Bool → Bool × List Octets
  | ['-', '-'] :: args, raw => (raw, args)
  | ['-', 'r'] :: args, _ => readOptions args true
  | ['-', 'p'] :: _ :: args, raw => readOptions args raw
  | ['-', 'r', 'p'] :: _ :: args, _ => readOptions args true
  | args, raw => (raw, args)

/-- Reads a line into variables. -/
def read : Action := fun args => do
  let (raw, names) := readOptions args false
  if names = [] then
    complain "read".toList "arg count".toList
    return 2
  else if let some name := names.find? (!isName ·) then
    fatal "read".toList (name ++ ": bad variable name".toList)
  else
    let (line, ended) ← takeLine raw Run.pieceLimit []
    let separators := (← Run.valueOf? "IFS".toList).getD " \t\n".toList
    distribute separators (names.length + 1) line names
    return if ended then 0 else 1

/-- What is found at an option: its letter, its argument if it has one, and where the next option
is: in which argument, and after how many bytes of it. -/
structure Found where
  letter : Char
  argument? : Option Octets
  index : Nat
  offset : Nat
  complaint : Octets

/-- The option at a place among the arguments, if there is one; a list of letters says which there
are, and which take an argument.  `index` counts from 1, and `offset` bytes of the argument before
it have been read if it is not zero. -/
def option? (letters : Octets) (args : List Octets) (index offset : Nat) : Option Found :=
  let quiet : Bool := letters.head? = some ':'
  let inside := if index < 2 then [] else (args[index - 2]?.getD []).drop offset
  let (rest, index) : Octets × Nat :=
    if offset ≠ 0 && inside ≠ [] then (inside, index)
    else match args[index - 1]? with
      | some ('-' :: c :: cs) => if c :: cs = ['-'] then ([], index + 1) else (c :: cs, index + 1)
      | _ => ([], index)
  match rest with
  | [] => none
  | c :: after =>
    let place := (args[index - 2]?.getD []).length - after.length
    let next : Nat := if after = [] then 0 else place
    match (letters.dropWhile (· ≠ c)) with
    | [] =>
      if quiet then some ⟨'?', some [c], index, next, []⟩
      else some ⟨'?', none, index, next, "Illegal option -".toList ++ [c, '\n']⟩
    | _ :: ':' :: _ =>
      if after ≠ [] then some ⟨c, some after, index, 0, []⟩
      else match args[index - 1]? with
        | some value => some ⟨c, some value, index + 1, 0, []⟩
        | none =>
          if quiet then some ⟨':', some [c], index, 0, []⟩
          else some ⟨'?', none, index, 0, "No arg for -".toList ++ [c] ++ " option\n".toList⟩
    | _ => some ⟨c, some [], index, next, []⟩

/-- Reads the next option out of the arguments. -/
def getopts : Action := fun args => do
  match args with
  | letters :: name :: more =>
    let s ← Run.shell
    let args := if more = [] then s.positional else more
    let index := ((s.valueOf? "OPTIND".toList).bind Octets.nat?).getD 1
    let setIndex (index offset : Nat) : Run Unit := do
      Run.assign "OPTIND".toList (Text.ofNat index)
      Run.modifyShell fun s => { s with letter := offset }
    match option? letters args (max 1 index) s.letter with
    | none =>
      let ended := args[index - 1]? = some "--".toList
      setIndex (if ended then index + 1 else max 1 index) 0
      Run.assign name ['?']
      return 1
    | some f =>
      Run.write 2 f.complaint
      match f.argument? with
      | some t => Run.assign "OPTARG".toList t
      | none => Run.modifyShell (·.unassign "OPTARG".toList)
      setIndex f.index f.offset
      Run.assign name [f.letter]
      return 0
  | _ => fatal "getopts".toList "Usage: getopts optstring var [arg...]".toList

/-! ## Signals and processes -/

/-- The process that an argument names, by its number or as a job of the shell. -/
def process? (t : Octets) : Run (Option Nat) := do
  let s ← Run.shell
  match t with
  | '%' :: n =>
    if n = [] || n = ['%'] || n = ['+'] then return s.jobs.getLast?
    else return (Octets.nat? n).bind fun n => if n = 0 then none else s.jobs[n - 1]?
  | _ => return Octets.nat? t

/-- Sends a signal to a process. -/
def send (signal : Nat) (target : Octets) : Run Nat := do
  let m ← get
  match ← process? target with
  | none =>
    complain "kill".toList ("Illegal number: ".toList ++ target)
    return 2
  | some pid =>
    if pid = m.shell.pid || (m.others.lookup pid).isSome || m.shell.jobs.contains pid then
      modify fun m => { m with signals := m.signals ++ [(pid, signal)] }
      Run.pause (.at_ m.now)
      return 0
    else
      complain "kill".toList "No such process\n".toList
      return 1

/-- Sends a signal to several processes. -/
def sendAll (signal : Nat) (targets : List Octets) : Run Nat :=
  targets.foldlM (fun code t => do return max code (← send signal t)) 0

/-- Sends a signal to processes, or lists the signals. -/
def kill : Action := fun args => do
  let usage : Run Nat := do
    complain "kill".toList "Illegal option".toList
    return 2
  match args with
  | [] =>
    complain "kill".toList
      ("Usage: kill [-s sigspec | -signum | -sigspec] [pid | job]... or\n".toList
        ++ "kill -l [exitstatus]".toList)
    return 2
  | ['-', '-'] :: targets => sendAll 15 targets
  | ['-', 's'] :: name :: targets => match Signal.number? name with
    | some n => sendAll n targets
    | none => usage
  | ('-' :: name) :: targets => match Signal.number? name with
    | some n => sendAll n (targets.filter (· ≠ "--".toList))
    | none => usage
  | targets => sendAll 15 targets

/-- Says what is to be done at signals, or, under the name `EXIT`, at the end. -/
def trap : Action := fun args => do
  let set_ (action? : Option Octets) (names : List Octets) : Run Nat := do
    for name in names do
      match Signal.number? name with
      | some n =>
        Run.modifyShell fun s =>
          let others := s.traps.filter (·.1 ≠ n)
          { s with traps := match action? with
            | some action => others ++ [(n, action)]
            | none => others }
      | none =>
        complain "trap".toList (name ++ ": bad trap".toList)
        return 1
    return 0
  match if args.head? = some "--".toList then args.tail else args with
  | [] =>
    let traps := (← Run.shell).traps.mergeSort fun a b => a.1 ≤ b.1
    Run.write 1 (traps.flatMap fun (n, action) =>
      "trap -- ".toList ++ singleQuoted action ++ [' '] ++ Signal.name n ++ ['\n'])
    return 0
  | [name] => set_ none [name]
  | action :: names =>
    if action = ['-'] || (Octets.nat? action).isSome then
      set_ none (if action = ['-'] then names else action :: names)
    else set_ (some action) names

/-- Says that a signal has ended a process. -/
def mourn : ExitStatus → Run Unit
  | .exited _ => return ()
  | .signaled n => do
    let t := Signal.word n
    if t ≠ [] then Run.write 2 (t ++ ['\n'])

/-- Notices which of the processes in the background have ended. -/
def notice : Run Unit := do
  let m ← get
  Run.modifyShell fun s =>
    { s with noticed := s.jobs.filter fun pid => (m.ended.lookup pid).isSome }

/-- Waits for a child that was started in the background and returns its exit code. -/
def waitForJob (pid : Nat) : Run Nat := do
  if ((← get).ended.lookup pid).isNone then Run.pause (.ended pid true)
  match (← get).ended.lookup pid with
  | some status => return Run.codeOf status
  | none => return 128 + (← Run.shell).pending.headD 0

/-- Waits for processes in the background, for all when none is named. -/
def wait : Action := fun args => do
  let s ← Run.shell
  match args with
  | [] =>
    for pid in s.jobs do
      let code ← waitForJob pid
      if (← Run.shell).pending ≠ [] then return code
    Run.modifyShell fun s => { s with jobs := [] }
    return 0
  | _ =>
    args.foldlM (fun _ t => do
      match ← process? t with
      | none =>
        complain "wait".toList ("Illegal number: ".toList ++ t)
        return 2
      | some pid =>
        if !s.jobs.contains pid then return 127
        let code ← waitForJob pid
        if !(← Run.shell).noticed.contains pid then
          match (← get).ended.lookup pid with
          | some status => mourn status
          | none => pure ()
        notice
        return code) 0

/-! ## Leaving -/

/-- The number that an argument gives, or else a code. -/
def codeOf (name : Octets) (args : List Octets) (otherwise : Nat) : Run Nat := do
  match args with
  | [] => return otherwise
  | arg :: _ => match Octets.nat? arg with
    | some n => return n % 256
    | none => fatal name ("Illegal number: ".toList ++ arg)

/-- Ends the shell; inside a trap the exit code is, unless one is given, the one from before it. -/
def exit : Action := fun args => do
  let s ← Run.shell
  Run.leave (.exit (← codeOf "exit".toList args (s.before?.getD s.status)))

/-- Leaves a function or a script. -/
def «return» : Action := fun args => do
  Run.leave (.return_ (← codeOf "return".toList args (← Run.shell).status))

/-- Leaves as many loops as the argument says, or one; outside of all loops nothing happens. -/
def leaveLoops (name : Octets) (leave : Nat → Leave) : Action := fun args => do
  let n ← match args.head? with
    | none => pure 1
    | some t => match (Octets.nat? t).filter (0 < ·) with
      | some n => pure n
      | none => fatal name ("Illegal number: ".toList ++ t)
  let depth := (← Run.shell).loops
  if depth = 0 then return 0
  else
    Run.setStatus 0
    Run.leave (leave (min n depth))

/-- The commands by their names. -/
def actions : List (Octets × Action) := [
  ([':'], fun _ => return 0), ("true".toList, fun _ => return 0),
  ("false".toList, fun _ => return 1),
  ("echo".toList, echo), ("printf".toList, printf), ("test".toList, testAs "test".toList),
  (['['], bracket), ("cd".toList, cd), ("chdir".toList, cd), ("pwd".toList, pwd),
  ("wait".toList, wait), ("set".toList, set), ("shift".toList, shift),
  ("export".toList, «export»), ("readonly".toList, «readonly»), ("local".toList, «local»),
  ("unset".toList, unset), ("read".toList, read), ("getopts".toList, getopts),
  ("kill".toList, kill), ("trap".toList, trap), ("type".toList, type),
  ("exit".toList, exit), ("return".toList, «return»),
  ("break".toList, leaveLoops "break".toList Leave.break_),
  ("continue".toList, leaveLoops "continue".toList Leave.continue_)]

end Builtin
end Shell
end Doctest
