/-
# The command line

| command | arguments | does |
| --- | --- | --- |
| `spec`, `test` | a document, sections | runs the sections |
| `check` | `--style spec` or `unit` | runs what the settings list |
| `sections` | a document | lists the headers |
| `extract` | a document, a section | prints the examples |
| `exec` | files | runs the files with warnings |

The options `--no-color`, `--ruby`, `--lib`, `--timeout` and `--config` stand before or after the
command; each at most once in either place, and what stands after the command wins.  A value
follows its option as the next argument, unless that starts with `-`, or after `=`.  After `--`
everything is a plain argument.  No path is empty, and all but paths is text.
-/

import Doctest.Config

namespace Doctest

/-- What is to be done. -/
inductive Command where
  | spec (document : Path) (titles : List Text)
  | test (document : Path) (titles : List Text)
  | check (style? : Option Style)
  | sections (document : Path)
  | extract (document : Path) (title : Text)
  | exec (files : List Path)
deriving DecidableEq, Repr

/-- The options that every command takes. -/
structure Options where
  noColor : Bool
  ruby : Option Path
  lib : Option Path
  timeoutSecs : Option Nat
  config : Option Path
deriving DecidableEq, Repr

/-- What a command line asks for. -/
inductive Invocation where
  | run (options : Options) (command : Command)
  | version
  | help
  | misuse
deriving DecidableEq, Repr

namespace CommandLine

/-- The names of the commands. -/
inductive CommandName where
  | spec
  | test
  | check
  | sections
  | extract
  | exec
deriving DecidableEq, Repr

/-- The command of the given name. -/
def CommandName.ofText? (t : Text) : Option CommandName :=
  if t = "spec".toList then some .spec
  else if t = "test".toList then some .test
  else if t = "check".toList then some .check
  else if t = "sections".toList then some .sections
  else if t = "extract".toList then some .extract
  else if t = "exec".toList then some .exec
  else none

/-- An argument before `--`. -/
inductive Word where
  | ending
  | long (name : Bytes) (value? : Option Bytes)
  | short (letters : Bytes)
  | plain (argument : Bytes)
deriving DecidableEq, Repr

/-- The byte that options start with. -/
abbrev dash : UInt8 := 0x2d

/-- The byte between an option and its value. -/
abbrev equals : UInt8 := 0x3d

/-- The kind of an argument before `--`; a lone `-` is plain. -/
def Word.ofBytes (argument : Bytes) : Word :=
  match Text.afterStart? [dash, dash] argument with
  | some [] => .ending
  | some body =>
    match Text.splitOn equals body with
    | name :: first :: more => .long name (some (Text.join [equals] (first :: more)))
    | _ => .long body none
  | none =>
    match Text.afterStart? [dash] argument with
    | some (letter :: letters) => .short (letter :: letters)
    | _ => .plain argument

/-- The options, those of one command included, and the arguments that stand by themselves. -/
structure Given where
  noColor : Bool
  ruby : Option Path
  lib : Option Path
  timeoutSecs : Option Nat
  config : Option Path
  style : Option Style
  plain : List Bytes
deriving DecidableEq, Repr

/-- Nothing given yet. -/
def Given.nothing : Given := ⟨false, none, none, none, none, none, []⟩

/-- Why the arguments are not read to their end. -/
inductive Stop where
  | misuse
  | help
  | version
deriving DecidableEq, Repr

/-- A path that is not empty. -/
def path? (argument : Bytes) : Option Path := if argument = [] then none else some argument

/-- The number that the digits write. -/
def digits? : Text → Option Nat
  | [] => none
  | t => t.foldl (fun n? c => n?.bind fun n =>
      if '0' ≤ c && c ≤ '9' then some (n * 10 + (c.toNat - '0'.toNat)) else none) (some 0)

/-- The least number that is not a number of seconds. -/
def secondsLimit : Nat := 18446744073709551616

/-- A number of seconds, with a plus sign or without. -/
def seconds? (t : Text) : Option Nat :=
  let unsigned := match t with
    | '+' :: more => more
    | _ => t
  (digits? unsigned).filter (· < secondsLimit)

/-- Takes a value for an option that has none yet. -/
def once {α : Type} (old : Option α) (new : Option α) : Except Stop (Option α) :=
  match old, new with
  | none, some v => .ok (some v)
  | _, _ => .error .misuse

/-- Which options with a value there are. -/
inductive ValueOption where
  | ruby
  | lib
  | timeout
  | config
  | style
deriving DecidableEq, Repr

/-- The option with a value of the given name; `--style` belongs to one command. -/
def ValueOption.ofText? (hasStyle : Bool) (t : Text) : Option ValueOption :=
  if t = "ruby".toList then some .ruby
  else if t = "lib".toList then some .lib
  else if t = "timeout".toList then some .timeout
  else if t = "config".toList then some .config
  else if hasStyle && t = "style".toList then some .style
  else none

/-- The options with one more value. -/
def Given.withValue (g : Given) (o : ValueOption) (v : Bytes) : Except Stop Given :=
  match o with
  | .ruby => (once g.ruby (path? v)).map fun x => { g with ruby := x }
  | .lib => (once g.lib (path? v)).map fun x => { g with lib := x }
  | .timeout =>
    (once g.timeoutSecs ((Text.decode? v).bind seconds?)).map fun x => { g with timeoutSecs := x }
  | .config => (once g.config (path? v)).map fun x => { g with config := x }
  | .style =>
    (once g.style ((Text.decode? v).bind Style.ofName?)).map fun x => { g with style := x }

/-- Where arguments are read: before the command, or after it. -/
inductive Level where
  | before
  | after (command : CommandName)
deriving DecidableEq, Repr

/-- Whether `--style` may be given. -/
def Level.hasStyle (l : Level) : Bool := l = .after .check

/-- What a letter after a single `-` asks for. -/
def Level.letter (l : Level) (letter : UInt8) : Stop :=
  if letter = 'h'.toUInt8 then .help
  else if letter = 'V'.toUInt8 && l = .before then .version
  else .misuse

/-- How many arguments may stand by themselves; `none` means any number. -/
def CommandName.most? : CommandName → Option Nat
  | .spec | .test | .exec => none
  | .check => some 0
  | .sections => some 1
  | .extract => some 2

/-- Whether the argument at the position is a path. -/
def CommandName.isPathAt : CommandName → Nat → Bool
  | .exec, _ => true
  | _, i => i = 0

/-- Whether the argument can stand at the position. -/
def CommandName.takes (c : CommandName) (i : Nat) (argument : Bytes) : Bool :=
  !c.most?.any (· ≤ i) &&
    if c.isPathAt i then argument ≠ [] else (Text.decode? argument).isSome

/-- The arguments with one more that stands by itself. -/
def Given.withPlain (g : Given) (c : CommandName) (argument : Bytes) : Except Stop Given :=
  if c.takes g.plain.length argument then .ok { g with plain := g.plain ++ [argument] }
  else .error .misuse

/-- The arguments after `--`. -/
def Given.withAll (g : Given) (c : CommandName) : List Bytes → Except Stop Given
  | [] => .ok g
  | t :: ts => do (← g.withPlain c t).withAll c ts

/-- What was read up to the command, and the command with what follows it. -/
structure Reading where
  given : Given
  command? : Option (CommandName × List Bytes)

/-- The word that asks for help where a command can stand. -/
def helpWord : Text := "help".toList

/-- What `help` asks for, before the given arguments: there is help on the whole and on a
command. -/
def helpOn : List Bytes → Stop
  | [] => .help
  | [argument] =>
    if (Text.decode? argument).any fun t => (CommandName.ofText? t).isSome || t = helpWord
      then .help
    else .misuse
  | _ => .misuse

/-- Reads arguments.  Before the command the first one that stands by itself is its name. -/
def read (l : Level) : List Bytes → Given → Except Stop Reading
  | [], g => .ok ⟨g, none⟩
  | t :: ts, g =>
    match Word.ofBytes t with
    | .ending =>
      match l with
      | .before => .error .misuse
      | .after c => (g.withAll c ts).map (⟨·, none⟩)
    | .short [] => .error .misuse
    | .short (c :: _) => .error (l.letter c)
    | .plain t =>
      match l with
      | .before =>
        match Text.decode? t with
        | none => .error .misuse
        | some name =>
          if name = helpWord then .error (helpOn ts)
          else match CommandName.ofText? name with
            | some c => .ok ⟨g, some (c, ts)⟩
            | none => .error .misuse
      | .after c => do read l ts (← g.withPlain c t)
    | .long name value? =>
      let name? := Text.decode? name
      match name?.bind (ValueOption.ofText? l.hasStyle), value? with
      | some o, some v => do read l ts (← g.withValue o v)
      | some o, none =>
        match ts with
        | v :: ts =>
          match Word.ofBytes v with
          | .plain v => do read l ts (← g.withValue o v)
          | _ => .error .misuse
        | [] => .error .misuse
      | none, some _ => .error .misuse
      | none, none =>
        if name? = some "no-color".toList && !g.noColor then read l ts { g with noColor := true }
        else if name? = some "help".toList then .error .help
        else if name? = some "version".toList && l = .before then .error .version
        else .error .misuse

/-- The command with the arguments that it needs. -/
def CommandName.command? (c : CommandName) (g : Given) : Option Command :=
  match c, g.plain with
  | .spec, document :: title :: titles =>
    ((title :: titles).mapM Text.decode?).map (.spec document)
  | .test, document :: title :: titles =>
    ((title :: titles).mapM Text.decode?).map (.test document)
  | .check, [] => some (.check g.style)
  | .sections, [document] => some (.sections document)
  | .extract, [document, title] => (Text.decode? title).map (.extract document)
  | .exec, file :: files => some (.exec (file :: files))
  | _, _ => none

/-- The options given before and after the command; what stands after it wins. -/
def options (before after : Given) : Options where
  noColor := before.noColor || after.noColor
  ruby := after.ruby <|> before.ruby
  lib := after.lib <|> before.lib
  timeoutSecs := after.timeoutSecs <|> before.timeoutSecs
  config := after.config <|> before.config

/-- Reads the arguments before the command, the command, and those after it. -/
def invocation? (args : List Bytes) : Except Stop Invocation := do
  let first ← read .before args .nothing
  let some (name, rest) := first.command? | throw .misuse
  let second ← read (.after name) rest .nothing
  let some command := name.command? second.given | throw .misuse
  return .run (options first.given second.given) command

end CommandLine

/-- What the arguments ask for. -/
def Invocation.ofArguments (args : List Bytes) : Invocation :=
  match CommandLine.invocation? args with
  | .ok i => i
  | .error .misuse => .misuse
  | .error .help => .help
  | .error .version => .version

end Doctest
