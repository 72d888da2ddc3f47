/-
# Reading a settings file

The file is a sequence of lines, after a byte-order mark at most:

| line | meaning |
| --- | --- |
| `key = value` | an entry of the table last opened |
| `[key]` | opens a table |
| `[[key]]` | adds a table to an array and opens it |

Anything else than spaces and a comment on the same line makes the file invalid.
-/

import Doctest.Toml.Float
import Doctest.Toml.Moment
import Doctest.Toml.Tree

namespace Doctest
namespace Toml

/-- The last key of a path and the keys before it. -/
def splitLast (keys : List Text) : Option (List Text × Text) :=
  keys.getLast?.map fun key => (keys.dropLast, key)

/-- A value without parts. -/
def scalar (t : Text) : Option (Value × Text) :=
  match t with
  | 't' :: 'r' :: 'u' :: 'e' :: t => some (.boolean true, t)
  | 'f' :: 'a' :: 'l' :: 's' :: 'e' :: t => some (.boolean false, t)
  | c :: _ =>
    if c = '"' || c = '\'' then (string t).map fun (s, t) => (.string s, t)
    else
      match moment t, float t with
      | some (written, t), _ => some (.moment written, t)
      | none, some (written, t) => some (.float written, t)
      | none, none => (integer t).map fun (n, t) => (.integer n, t)
  | [] => none

mutual

/-- A value inside so many brackets and braces. -/
def value (depth : Nat) : Nat → Reader Value
  | 0, _ => none
  | fuel + 1, t =>
    match t with
    | '[' :: t =>
      if nestingLimit ≤ depth + 1 then none
      else do
        let (items, t) ← arrayItems (depth + 1) fuel t
        some (.array items, t)
    | '\x7b' :: t =>
      if nestingLimit ≤ depth + 1 then none
      else
        match skipSpaces t with
        | '\x7d' :: t => some (.table [], t)
        | t => do
          let (es, t) ← inlineEntries (depth + 1) fuel [] t
          some (.table (finishEntries es), t)
    | t => scalar t

/-- The items of an array and its closing bracket. -/
def arrayItems (depth : Nat) : Nat → Reader (List Value)
  | 0, _ => none
  | fuel + 1, t => do
    let t ← skipGaps? t.length t
    match t with
    | ']' :: t => some ([], t)
    | t =>
      let (v, t) ← value depth fuel t
      let t ← skipGaps? t.length t
      match t with
      | ']' :: t => some ([v], t)
      | ',' :: t => do
        let (vs, t) ← arrayItems depth fuel t
        some (v :: vs, t)
      | _ => none

/-- The entries of an inline table and its closing brace. -/
def inlineEntries (depth : Nat) : Nat → Entries → Text → Option (Entries × Text)
  | 0, _, _ => none
  | fuel + 1, es, t => do
    let (es, t) ← entry depth fuel es t
    match skipSpaces t with
    | '\x7d' :: t => some (es, t)
    | ',' :: t => inlineEntries depth fuel es t
    | _ => none

/-- A key and its value, added to the entries. -/
def entry (depth : Nat) : Nat → Entries → Text → Option (Entries × Text)
  | 0, _, _ => none
  | fuel + 1, es, t => do
    let (keys, t) ← key t
    match skipSpaces t with
    | '=' :: t => do
      let (v, t) ← value depth fuel (skipSpaces t)
      let (path, key) ← splitLast keys
      some (← assign path key v es, t)
    | _ => none

end

/-- The part of a file read so far: its entries and the path of the table last opened. -/
structure Draft where
  entries : Entries
  opened : List Text

/-- A header `[key]`, after its bracket, or `[[key]]`, after both. -/
def header (isArray : Bool) (d : Draft) (t : Text) : Option (Draft × Text) := do
  let (keys, t) ← key t
  let t ← Text.afterStart? (if isArray then [']', ']'] else [']']) (skipSpaces t)
  let (path, key) ← splitLast keys
  let es ← (if isArray then addTable path key d.entries else openTable path key d.entries)
  some (⟨es, keys⟩, t)

/-- An entry of the table last opened. -/
def openedEntry (d : Draft) (t : Text) : Option (Draft × Text) := do
  let (keys, rest) ← key t
  match skipSpaces rest with
  | '=' :: rest => do
    let (v, rest) ← value 0 (rest.length + 1) (skipSpaces rest)
    let (path, key) ← splitLast keys
    let es ← descend false (fun _ es => assign path key v es) d.opened false d.entries
    some (⟨es, d.opened⟩, rest)
  | _ => none

/-- The statement at the start of a line, if there is one before the line's end. -/
def statement (d : Draft) (t : Text) : Option (Draft × Text) :=
  match t with
  | '[' :: '[' :: t => header true d t
  | '[' :: t => header false d t
  | [] => some (d, [])
  | c :: _ => if c = '#' || c = '\n' || c = '\r' then some (d, t) else openedEntry d t

/-- All lines. -/
def statements : Nat → Draft → Text → Option Draft
  | 0, _, _ => none
  | _ + 1, d, [] => some d
  | fuel + 1, d, t => do
    let (d, t) ← statement d (skipSpaces t)
    statements fuel d (← finishLine? t)

/-- The entries of a file; `none` when the file is invalid. -/
def parse? (source : Text) : Option (List (Text × Value)) := do
  let source := (Text.afterStart? ['\ufeff'] source).getD source
  let d ← statements (source.length + 1) ⟨[], []⟩ source
  some (finishEntries d.entries)

end Toml
end Doctest
