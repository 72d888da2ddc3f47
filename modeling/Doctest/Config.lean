/-
# Settings

| setting | value | default |
| --- | --- | --- |
| `lib` | directory put on the load path | none |
| `style` | `spec` or `unit` | `spec` |
| `interpreter.path` | executable, or a bare name | none |
| `interpreter.timeout_secs` | seconds after which a run is killed | none |
| `documents` | each a `path` and its `sections`, both needed | no documents |

Any other key makes the file invalid.  Relative paths are relative to the directory of the file; a
bare name of an interpreter is no path and stays as it is.
-/

import Doctest.Toml.Reader
import Doctest.Host.Basic
import Doctest.Duration

namespace Doctest

/-- Which kind of cases is built from the documents. -/
inductive Style where
  | spec
  | unit
deriving DecidableEq, Repr

/-- The style of the given name. -/
def Style.ofName? (name : Text) : Option Style :=
  if name = "spec".toList then some .spec else if name = "unit".toList then some .unit else none

/-- A document and the sections of it to run. -/
structure DocumentEntry where
  path : Path
  sections : List Text
deriving DecidableEq, Repr

/-- The settings. -/
structure Config where
  lib : Option Path
  style : Style
  interpreterPath : Option Path
  timeoutSecs : Option Nat
  documents : List DocumentEntry
deriving DecidableEq, Repr

/-- Why there are no settings. -/
inductive ConfigError where
  | unreadable (path : Path) (cause : IoError)
  | invalid (path : Path)
deriving DecidableEq, Repr

/-- The message of settings that cannot be had. -/
def ConfigError.message : ConfigError → Text
  | .unreadable path cause =>
    "cannot read `".toList ++ path.display ++ "': ".toList ++ cause.message
  | .invalid path => "invalid config `".toList ++ path.display ++ "': ".toList

namespace Config

open Toml (Value)

/-- The file that is read when no other is named. -/
def defaultFile : Path := .ofText "docmark.toml".toList

/-- The settings of an empty file. -/
def empty : Config := ⟨none, .spec, none, none, []⟩

/-- A setting that may be absent, read by `f` when it is there. -/
def optional {α : Type} (f : Value → Option α) : Option Value → Option (Option α)
  | none => some none
  | some v => (f v).map some

/-- The path that a value writes. -/
def pathOf? (v : Value) : Option Path := v.text?.map Path.ofText

/-- A document's settings. -/
def entryOf? (v : Value) : Option DocumentEntry := do
  match ← v.fields? ["path".toList, "sections".toList] with
  | [some path, some sections] =>
    return ⟨← pathOf? path, ← (← sections.items?).mapM Value.text?⟩
  | _ => none

/-- The path and the timeout of the interpreter's settings. -/
def interpreterOf? (v : Value) : Option (Option Path × Option Nat) := do
  match ← v.fields? ["path".toList, "timeout_secs".toList] with
  | [path, timeout] => return (← optional pathOf? path, ← optional Value.natural? timeout)
  | _ => none

/-- The settings in a table. -/
def ofEntries? (es : List (Text × Value)) : Option Config := do
  match ← (Value.table es).fields? ["lib".toList, "style".toList, "interpreter".toList,
      "documents".toList] with
  | [lib, style, interpreter, documents] =>
    let lib ← optional pathOf? lib
    let style ← optional (fun v => v.choice?.bind Style.ofName?) style
    let interpreter ← optional interpreterOf? interpreter
    let (path, timeout) := interpreter.getD (none, none)
    let documents ← optional (fun v => v.items?.bind (·.mapM entryOf?)) documents
    return ⟨lib, style.getD .spec, path, timeout, documents.getD []⟩
  | _ => none

/-- A path in the file as seen from where the file is, in the directory `base`. -/
def rebasePath (base p : Path) : Path := if p.isAbsolute then p else base.join p

/-- A program of the file as seen from where the file is: a bare name stays. -/
def rebaseProgram (base p : Path) : Path := if p.isCompound then rebasePath base p else p

/-- The settings as seen from where the file is, in the directory `base`. -/
def rebase (base : Path) (c : Config) : Config :=
  if base = [] then c
  else { c with
    lib := c.lib.map (rebasePath base)
    interpreterPath := c.interpreterPath.map (rebaseProgram base)
    documents := c.documents.map fun d => { d with path := rebasePath base d.path } }

/-- The settings of the file at the path, seen from its directory. -/
def rebaseTo (file : Path) (c : Config) : Config :=
  match file.parent? with
  | some base => c.rebase base
  | none => c

/-- Reads the text of the file at the path. -/
def parse (source : Text) (file : Path) : Except ConfigError Config :=
  match (Toml.parse? source).bind ofEntries? with
  | some c => .ok (c.rebaseTo file)
  | none => .error (.invalid file)

/-- The time after which a run is killed. -/
def timeout (c : Config) : Option Duration := c.timeoutSecs.map Duration.ofSecs

/-- Reads the named file, or the default one if it is there, or no file at all. -/
def load {m : Type → Type} [Monad m] (h : Host m) (named? : Option Path) :
    m (Except ConfigError Config) := do
  match named? with
  | some file => readFile file
  | none => if ← h.isFile defaultFile then readFile defaultFile else return .ok empty
where
  /-- Reads one file. -/
  readFile (file : Path) : m (Except ConfigError Config) := do
    match ← h.readText file with
    | .ok source => return parse source file
    | .error e => return .error (.unreadable file e)

end Config
end Doctest
