/-
# Running commands

| command | exit code |
| --- | --- |
| cannot be found | 127 |
| cannot be run | 126 |
| ended by a signal | 128 and the signal |
| makes no sense | 2 |

A subshell, a side of a pipeline, a substitution and a command in the background are processes of
their own, which start with the state of the shell.  The `last` command of a process is not given
one more: a program takes the place of the shell there.

`fuel` bounds the number of commands and their nesting; it is far more than any process uses.
-/

import Doctest.Posix.Shell.Builtin
import Doctest.Posix.Shell.Redirect
import Doctest.Posix.Shell.Start
import Doctest.Posix.Tool.Catalog

namespace Doctest
namespace Shell

/-- The exit code that a way of leaving stands for, unless a signal ends the process. -/
def Leave.code? (status : Nat) : Except Leave Unit → Except Leave Nat
  | .error (.exit n) | .error (.return_ n) => .ok n
  | .ok () | .error (.break_ _) | .error (.continue_ _) => .ok status
  | .error e => .error e

/-- The commands of a pipeline. -/
def stages : Command → List Command
  | .pipe a b => stages a ++ stages b
  | a => [a]

/-- A process beside a shell: its streams are changed, and it does not answer the shell's traps. -/
def beside (streams : List (Nat × Nat)) (s : ShellState) : ShellState :=
  let others := s.streams.filter fun c => !streams.any (·.1 = c.1)
  { s.withoutTraps with streams := streams ++ others, held := [] }

/-- A process in the background: it ignores what is typed to interrupt a program. -/
def inBackground (s : ShellState) : ShellState :=
  { s with traps := (2, []) :: (3, []) :: s.traps.filter fun t => t.1 ≠ 2 && t.1 ≠ 3 }

/-- Waits for processes that were started for one command, and returns the exit code of the last.
The ends of other processes are noticed with these. -/
def waitForAll : List Nat → Run Nat
  | [] => return 0
  | [pid] => do
    let status ← Run.waitFor pid
    Builtin.mourn status
    Builtin.notice
    return Run.codeOf status
  | pid :: pids => do
    Builtin.mourn (← Run.waitFor pid)
    waitForAll pids

/-- Keeps exactly these streams open besides the connected ones. -/
def keep (held : List Nat) : Run Unit := do
  Run.modifyShell fun s => { s with held := held }
  Run.yield

/-- The options of `command`: whether names are described, shortly or at length, and whether the
usual directories are searched; then the rest. -/
def commandOptions : List Octets → Option Char → Bool → Option Char × Bool × List Octets
  | ['-', '-'] :: args, d?, usual => (d?, usual, args)
  | ['-', 'v'] :: args, _, usual => commandOptions args (some 'v') usual
  | ['-', 'V'] :: args, _, usual => commandOptions args (some 'V') usual
  | ['-', 'p'] :: args, d?, _ => commandOptions args d? true
  | args, d?, usual => (d?, usual, args)

/-- Prints what a name stands for. -/
def describe (letter : Char) (names : List Octets) : Run Nat := do
  let m ← get
  match names with
  | [] => return 0
  | name :: _ =>
    let t? := if letter = 'v' then Lookup.callable? m name
      else (Lookup.described? m name).map (name ++ ·)
    match t? with
    | some t =>
      Run.write 1 (t ++ ['\n'])
      return 0
    | none =>
      if letter = 'V' then Run.write 2 (name ++ ": not found\n".toList)
      return 127

/-- Writes a command, as it is run, to the error stream. -/
def trace (texts : List Octets) : Run Unit := do
  let s ← Run.shell
  if s.flags.contains 'x' then
    Run.write 2 ((s.valueOf? "PS4".toList).getD [] ++ Text.join [' '] texts ++ ['\n'])

/-- Whether a failure of one of the shell's own commands ends the shell. -/
def isGrave (name : Octets) (viaCommand : Bool) : Bool :=
  if viaCommand then name = "exit".toList else Lookup.isSpecial name

/-- Does something inside of a loop. -/
def inLoop (act : Run Unit) : Run Unit := do
  Run.modifyShell fun s => { s with loops := s.loops + 1 }
  let r ← Run.attempt act
  Run.modifyShell fun s => { s with loops := s.loops - 1 }
  Run.settle r

/-- Where a program is that is named by another program, or why there is none. -/
def programPath (m : Machine) (name : Octets) : Except IoError Octets :=
  if name = [] then .error .notFound
  else if name.any (· = '/') then .ok name
  else
    let path := (m.shell.valueOf? "PATH".toList).getD "/bin:/usr/bin".toList
    match Lookup.programOn? m path name with
    | some p => .ok p
    | none => .error .notFound

/-- The call that a program sees. -/
def toolCall (name : Octets) (args : List Octets) : Run Tool.Call := do
  let m ← get
  return ⟨name, args, [], false, 0, ← Run.isFile 0, m.files, m.shell.cwd, ← Run.environment, m.now⟩

/-- Where a script is whose name is searched for on the path. -/
def scriptPath (m : Machine) (name : Octets) : Octets :=
  if name.any (· = '/') then name else (Lookup.program? m name).getD name

/-- Why a program cannot be run, in the words of the shell, and the exit code for it. -/
def refusal (e : IoError) : Octets × Nat :=
  match e with
  | .notFound | .notDirectory => ("not found".toList, 127)
  | .nameTooLong => (Tool.reason e, 127)
  | .other t => (Tool.reason (.other t), 127)
  | e => (Tool.reason e, 126)

mutual

/-- Runs a command.  A `tested` one is looked at by what runs it, so that its failure does not end
a shell that ends at failures; the `last` one is the last of its process. -/
def run : Nat → Bool → Bool → Command → Run Unit
  | 0, _, _, _ => Run.leave (.exit 2)
  | fuel + 1, tested, last, c => do
    let checked (act : Run Nat) : Run Unit := do
      let code ← act
      Run.setStatus code
      if code ≠ 0 && !tested && (← Run.shell).flags.contains 'e' then Run.leave (.exit code)
    match c with
    | .nothing => return ()
    | .simple c =>
      answer fuel
      checked (simple fuel tested last c)
      answer fuel
    | .pipe a b => checked do
      let held := (← Run.shell).held
      waitForAll (← pipeline fuel tested false held none (stages (.pipe a b)))
    | .not a =>
      run fuel true false a
      Run.setStatus (if (← Run.shell).status = 0 then 1 else 0)
    | .and a b =>
      run fuel true false a
      if (← Run.shell).status = 0 then run fuel tested last b
    | .or a b =>
      run fuel true false a
      if (← Run.shell).status ≠ 0 then run fuel tested last b
    | .sequence a b =>
      run fuel tested false a
      run fuel tested last b
    | .background a =>
      let held := (← Run.shell).held
      let null ← Run.openStream ⟨.null, 0, false⟩
      keep (null :: held)
      let pids ← pipeline fuel false true held (some null) (stages a)
      Run.modifyShell fun s =>
        { s with jobs := s.jobs ++ pids.getLast?.toList, latestJob? := pids.getLast?, status := 0 }
    | .subshell a =>
      if last && !(← Run.shell).hasTraps then run fuel tested true a
      else checked do
        waitForAll [← Run.fork (beside []) (whole fuel (run fuel tested true a))]
    | .conditional condition yes no =>
      run fuel true false condition
      if (← Run.shell).status = 0 then run fuel tested last yes
      else if no = .nothing then Run.setStatus 0
      else run fuel tested last no
    | .loop until_ condition body => inLoop (loop fuel tested until_ condition body 0)
    | .each name words? body =>
      let values ← match words? with
        | some ws => wordsFields fuel ws
        | none => do pure (← Run.shell).positional
      inLoop (eachValue fuel tested name body 0 values)
    | .choice value clauses =>
      let t ← Expansion.wordText (substitution fuel) value
      Run.setStatus 0
      clause fuel tested last t clauses
    | .clause .. => return ()
    | .define name body =>
      Run.modifyShell fun s =>
        { s with functions := (name, body) :: s.functions.filter (·.1 ≠ name) }
      Run.setStatus 0
    | .redirected a rs =>
      Run.withStreams do
        if ← Redirection.openAll (substitution fuel) rs then run fuel tested false a
        else checked (return 2)

/-- Starts the commands of a pipeline, the first of which reads from a stream if one is given, and
returns the numbers of their processes.  `held` are the streams that the shell keeps open anyway. -/
def pipeline : Nat → Bool → Bool → List Nat → Option Nat → List Command → Run (List Nat)
  | 0, _, _, _, _, _ | _ + 1, _, _, _, _, [] => return []
  | fuel + 1, tested, background, held, input?, c :: cs => do
    let ends? ← if cs = [] then pure none else some <$> Run.openPipe []
    let inputs := input?.toList
    keep (inputs ++ (ends?.toList.flatMap fun (i, o) => [i, o]) ++ held)
    let streams := inputs.map ((0, ·)) ++ ends?.toList.map fun (_, o) => (1, o)
    let adapt (s : ShellState) : ShellState :=
      if background then inBackground (beside streams s) else beside streams s
    let pid ← Run.fork adapt (whole fuel (run fuel tested true c))
    keep ((ends?.toList.map Prod.fst) ++ held)
    return pid :: (← pipeline fuel tested background held (ends?.map Prod.fst) cs)

/-- The fields of several words. -/
def wordsFields : Nat → List Word → Run (List Octets)
  | 0, _ | _ + 1, [] => return []
  | fuel + 1, w :: ws => do
    let fs ← Expansion.wordFields (substitution fuel) w
    return fs ++ (← wordsFields fuel ws)

/-- Runs a loop; `latest` is the exit code of the latest round. -/
def loop : Nat → Bool → Bool → Command → Command → Nat → Run Unit
  | 0, _, _, _, _, _ => Run.leave (.exit 2)
  | fuel + 1, tested, until_, condition, body, latest => do
    Run.tick Run.stepTime
    let r ← Run.attempt do
      run fuel true false condition
      let goes := ((← Run.shell).status = 0) != until_
      if goes then run fuel tested false body
      return goes
    match r with
    | .ok true => loop fuel tested until_ condition body (← Run.shell).status
    | .ok false => Run.setStatus latest
    | .error (.continue_ (n + 2)) => Run.leave (.continue_ (n + 1))
    | .error (.continue_ _) => loop fuel tested until_ condition body (← Run.shell).status
    | .error (.break_ (n + 2)) => Run.leave (.break_ (n + 1))
    | .error (.break_ _) => Run.setStatus 0
    | .error e => Run.leave e

/-- Runs a command for each value; `latest` is the exit code of the latest round. -/
def eachValue : Nat → Bool → Octets → Command → Nat → List Octets → Run Unit
  | 0, _, _, _, _, _ => Run.leave (.exit 2)
  | _ + 1, _, _, _, latest, [] => Run.setStatus latest
  | fuel + 1, tested, name, body, _, value :: values => do
    Run.tick Run.stepTime
    Run.assign name value
    match ← Run.attempt (run fuel tested false body) with
    | .ok () => eachValue fuel tested name body (← Run.shell).status values
    | .error (.continue_ (n + 2)) => Run.leave (.continue_ (n + 1))
    | .error (.continue_ _) => eachValue fuel tested name body (← Run.shell).status values
    | .error (.break_ (n + 2)) => Run.leave (.break_ (n + 1))
    | .error (.break_ _) => Run.setStatus 0
    | .error e => Run.leave e

/-- Runs the first clause that has a pattern for the text. -/
def clause : Nat → Bool → Bool → Octets → Command → Run Unit
  | 0, _, _, _, _ => Run.leave (.exit 2)
  | fuel + 1, tested, last, t, .clause patterns body otherwise => do
    let hit ← patterns.anyM fun w => do
      return (← Expansion.wordPattern (substitution fuel) w).isMatch t
    if hit then run fuel tested last body else clause fuel tested last t otherwise
  | _ + 1, _, _, _, _ => return ()

/-- Runs a simple command and returns its exit code. -/
def simple : Nat → Bool → Bool → Simple → Run Nat
  | 0, _, _, _ => Run.leave (.exit 2)
  | fuel + 1, tested, last, c => do
    Run.tick Run.stepTime
    Run.modifyShell fun s => { s with line := c.line, substituted := 0 }
    let redirected : Run Bool := Redirection.openAll (substitution fuel) c.redirections
    let assignAll : Run (List Octets) := c.assignments.mapM fun a => do
      let t ← Expansion.wordText (substitution fuel) a.value
      Run.assign a.name t
      return a.name ++ '=' :: t
    match ← wordsFields fuel c.words with
    | [] => Run.withStreams do
      if ← redirected then
        trace (← assignAll)
        return (← Run.shell).substituted
      else return 2
    | name :: args =>
      let special := Lookup.isSpecial name
      if name = "exec".toList && args = [] then
        if !(← redirected) then Run.leave (.exit 2)
        trace ((← assignAll) ++ [name])
        return 0
      else Run.withStreams do
        if ← redirected then
          let names := c.assignments.map (·.name)
          let s ← Run.shell
          let before := names.map fun n => (n, s.bindings.lookup n)
          let texts ← assignAll
          if !special || name = "exec".toList then Run.modifyShell (ShellState.exportAll names)
          trace (texts ++ name :: args)
          let code ← call fuel tested last false name args
          if !special then Run.modifyShell (ShellState.restoreAll before)
          return code
        else if special then Run.leave (.exit 2)
        else return 2

/-- Calls a function, a command of the shell's own, or a program. -/
def call : Nat → Bool → Bool → Bool → Octets → List Octets → Run Nat
  | 0, _, _, _, _, _ => Run.leave (.exit 2)
  | fuel + 1, tested, last, viaCommand, name, args => do
    let s ← Run.shell
    let textual (act : Run Unit) : Run Nat := do
      Run.setStatus 0
      match ← Run.attempt act with
      | .ok () => return (← Run.shell).status
      | .error (.return_ n) => return n
      | .error e => Run.leave e
    match if viaCommand then none else s.functions.lookup name with
    | some body =>
      Run.modifyShell fun s =>
        { s with positional := args, locals := [], calls := s.calls + 1, loops := 0, letter := 0 }
      let r ← Run.attempt (run fuel tested false body)
      Run.modifyShell fun t =>
        { t.restoreAll t.locals with
          positional := s.positional
          locals := s.locals
          calls := s.calls
          loops := s.loops
          letter := s.letter }
      match r with
      | .ok () => return (← Run.shell).status
      | .error (.return_ n) => return n
      | .error e => Run.leave e
    | none =>
      match Builtin.actions.lookup name with
      | some act =>
        match ← Run.attempt (act args) with
        | .error (.exit n) => if isGrave name viaCommand then Run.leave (.exit n) else return n
        | r => Run.settle r
      | none =>
        match String.ofList name, args with
        | "eval", _ =>
          Run.setStatus 0
          script fuel tested false (Reader.startAt s.line (Text.join [' '] args))
          return (← Run.shell).status
        | ".", path :: _ =>
          match ← Run.openFile (scriptPath (← get) path) true false false with
          | .ok i =>
            let t ← Run.readAllFrom i
            textual (script fuel tested false (Reader.startAt 1 t))
          | .error _ =>
            Builtin.fatal ['.'] ("cannot open ".toList ++ path ++ ": No such file".toList)
        | ".", [] => return 0
        | "exec", name :: args =>
          let code ← match Lookup.path? (← get) name with
            | some path => replace fuel "exec: ".toList path name args
            | none => do
              Run.complain ("exec: ".toList ++ name ++ ": not found".toList)
              pure 127
          Run.leave (.exit code)
        | "command", _ =>
          match commandOptions args none false with
          | (some letter, _, names) => describe letter names
          | (none, true, name :: args) =>
            match Lookup.programOn? (← get) "/usr/bin:/bin".toList name with
            | some path => program fuel last path name args
            | none => call fuel tested last true name args
          | (none, false, name :: args) => call fuel tested last true name args
          | (none, _, []) => return 0
        | _, _ =>
          let m ← get
          match if name.any (· = '/') then some name else Lookup.program? m name with
          | some path =>
            program fuel last path name args
          | none =>
            let why := if name = [] then ": Permission denied" else ": not found"
            Run.complain (name ++ why.toList)
            return 127

/-- Runs the program at a path, in a process of its own unless it is the last of this one. -/
def program : Nat → Bool → Octets → Octets → List Octets → Run Nat
  | 0, _, _, _, _ => Run.leave (.exit 2)
  | fuel + 1, last, path, name, args => do
    if last && !(← Run.shell).hasTraps then replace fuel [] path name args
    else waitForAll [← Run.fork (beside []) (replace fuel [] path name args)]

/-- Runs the program at a path in place of the shell; `front` stands before the complaint if that is
impossible. -/
def replace : Nat → Octets → Octets → Octets → List Octets → Run Nat
  | 0, _, _, _, _ => Run.leave (.exit 2)
  | fuel + 1, front, path, name, args => do
    let m ← get
    match (Start.startError? m.files m.shell.cwd Start.scriptDepth path).filter
        (· ≠ .execFormat) with
    | some e =>
      let (why, code) := refusal e
      Run.complain (front ++ name ++ ": ".toList ++ why)
      return code
    | none =>
      Run.modifyShell Start.asProgram
      process fuel path name args

/-- Runs the file at a path in this process. -/
def process : Nat → Octets → Octets → List Octets → Run Nat
  | 0, _, _, _ => Run.leave (.exit 2)
  | fuel + 1, path, name, args => do
    Run.tick Run.startTime
    let m ← get
    match m.files.find? m.shell.cwd path with
    | some (.program tool) =>
      match Tool.program? tool with
      | some (.plain f) => Tool.reply f (← toolCall name args)
      | some (.active f) => f ⟨exec fuel⟩ (← toolCall name args)
      | none => shell fuel name args
    | some (.file content true) =>
      match Start.interpreterLine? content with
      | some (interpreter, extra) => process fuel interpreter interpreter (extra ++ path :: args)
      | none =>
        Run.modifyShell fun s => Start.asShell s path args []
        whole fuel (script fuel false false (Reader.startAt 1 content))
    | _ => return 126

/-- Runs a program by its path or name in this process, unless it cannot be started. -/
def exec : Nat → Octets → List Octets → Run (Except IoError Nat)
  | 0, _, _ => Run.leave (.exit 2)
  | fuel + 1, name, args => do
    let m ← get
    match programPath m name with
    | .error e => return .error e
    | .ok path =>
      match Start.startError? m.files m.shell.cwd Start.scriptDepth path with
      | none | some .execFormat => return .ok (← process fuel path name args)
      | some e => return .error e

/-- Runs a shell that is called by its arguments. -/
def shell : Nat → Octets → List Octets → Run Nat
  | 0, _, _ => Run.leave (.exit 2)
  | fuel + 1, name, args => do
    let refuse (message : Octets) : Run Nat := do
      Run.write 2 (name ++ ": 0: ".toList ++ message ++ ['\n'])
      return 2
    match Start.Task.ofArguments name args [] with
    | .error message => refuse message
    | .ok task =>
      Run.modifyShell fun s => Start.asShell s task.name task.arguments task.flags
      match task.source with
      | .text t => whole fuel (script fuel false false (Reader.startAt 1 t))
      | .input =>
        let t ← Run.readAll 0
        whole fuel (script fuel false false (Reader.startAt 1 t))
      | .file path =>
        match ← Run.openFile path true false false with
        | .ok i =>
          let t ← Run.readAllFrom i
          whole fuel (script fuel false false (Reader.startAt 1 t))
        | .error e => refuse (Redirection.complaint path true e)

/-- Does everything that a process does, with what is to be done at its end, and returns its exit
code. -/
def whole : Nat → Run Unit → Run Nat
  | 0, _ => Run.leave (.exit 2)
  | fuel + 1, act => do
    let r ← Run.attempt act
    let s ← Run.shell
    match Leave.code? s.status r, s.traps.lookup 0 with
    | .error e, _ => Run.leave e
    | .ok code, none | .ok code, some [] => return code
    | .ok code, some action =>
      Run.modifyShell fun s =>
        { s with status := code, before? := some code, traps := s.traps.filter (·.1 ≠ 0) }
      match ← Run.attempt (script fuel false false (Reader.startAt 1 action)) with
      | .error (.exit n) => return n
      | .error (.killed n) => Run.leave (.killed n)
      | _ => return code

/-- Does what is to be done at the signals that came, in the order of their numbers; the exit code
of the latest command stays. -/
def answer : Nat → Run Unit
  | 0 => Run.leave (.exit 2)
  | fuel + 1 => do
    let s ← Run.shell
    match s.pending with
    | [] => return ()
    | p :: ps =>
      let signal := ps.foldl min p
      Run.modifyShell fun s =>
        { s with
          pending := s.pending.filter (· ≠ signal)
          before? := some (s.before?.getD s.status) }
      script fuel false false (Reader.startAt s.line ((s.traps.lookup signal).getD []))
      Run.modifyShell fun t => { t with status := s.status, before? := s.before? }
      answer fuel

/-- Runs the commands of a script; `last` when nothing of the process comes after them. -/
def script : Nat → Bool → Bool → Cursor → Run Unit
  | 0, _, _, _ => Run.leave (.exit 2)
  | fuel + 1, tested, last, c => do
    let s ← Run.shell
    match Reader.next? c with
    | .ok none => return ()
    | .ok (some (command, after)) =>
      if !s.flags.contains 'n' then run fuel tested (last && after.rest.isEmpty) command
      script fuel tested last after
    | .error e =>
      Run.modifyShell fun s => { s with line := e.line }
      Run.complain e.flaw.message
      Run.leave (.exit 2)

/-- The output of a command, without the line feeds at its end. -/
def substitution : Nat → Octets → Run Octets
  | 0, _ => Run.leave (.exit 2)
  | fuel + 1, source => do
    let s ← Run.shell
    let source := Text.trimEndWhile (· = '\n') source
    let (i, o) ← Run.openPipe []
    keep (i :: o :: s.held)
    let pid ← Run.fork (beside [(1, o)])
      (whole fuel (script fuel false true (Reader.startAt s.line source)))
    keep (i :: s.held)
    let t ← Run.readAllFrom i
    keep s.held
    let code ← waitForAll [pid]
    Run.modifyShell fun s => { s with substituted := code }
    return Text.trimEndWhile (· = '\n') (t.filter (· ≠ '\x00'))

end

end Shell
end Doctest
