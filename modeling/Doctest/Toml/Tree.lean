/-
# Tables under construction

A table remembers how it came about, because it may be opened again only in some ways:

| came about by | a header `[t]` | a key `t.k = v` |
| --- | --- | --- |
| header `[t.u]` only | opens it | no |
| header `[t]` | no | no |
| key `t.k = v` | no | adds to it |
| an inline table, any other value | no | no |

A header or key that passes through an array of tables means its last table.
-/

import Doctest.Toml.Value

namespace Doctest
namespace Toml

/-- A table or a value under construction.  A table is `implicit` while only keys or headers below
it mention it, and `dotted` if a key with points made it. -/
inductive Node where
  | value (v : Value)
  | table (isImplicit isDotted : Bool) (entries : List (Text × Node))
  | tables (items : List (List (Text × Node)))

/-- The entries of a table. -/
abbrev Entries := List (Text × Node)

mutual

/-- The value of a finished node. -/
def Node.toValue : Node → Value
  | .value v => v
  | .table _ _ es => .table (finishEntries es)
  | .tables ts => .array (finishTables ts)

/-- The values of finished entries. -/
def finishEntries : List (Text × Node) → List (Text × Value)
  | [] => []
  | (k, n) :: es => (k, n.toValue) :: finishEntries es

/-- The values of finished tables. -/
def finishTables : List (List (Text × Node)) → List Value
  | [] => []
  | t :: ts => .table (finishEntries t) :: finishTables ts

end

/-- The table at the end of a path from a table is changed by `f`, which is told whether it is
dotted.  Tables that are not there yet are made on the way. -/
def descend (byKey : Bool) (f : Bool → Entries → Option Entries) :
    List Text → Bool → Entries → Option Entries
  | [], isDotted, es => f isDotted es
  | key :: keys, _, es =>
    match find? key es with
    | none => do
      let child ← descend byKey f keys byKey []
      some (put key (.table true byKey child) es)
    | some (.value _) => none
    | some (.table isImplicit isDotted child) =>
      if byKey && !isImplicit then none
      else do
        let child ← descend byKey f keys isDotted child
        some (put key (.table isImplicit isDotted child) es)
    | some (.tables items) =>
      match items.getLast? with
      | none => none
      | some last => do
        let last ← descend byKey f keys false last
        some (put key (.tables (items.dropLast ++ [last])) es)

/-- A key and its value added to a table. -/
def assign (path : List Text) (key : Text) (v : Value) (es : Entries) : Option Entries :=
  descend true (fun isDotted es =>
    if isDotted = path.isEmpty then none
    else match find? key es with
      | some _ => none
      | none => some (put key (.value v) es)) path false es

/-- The table of a header `[…]` opened. -/
def openTable (path : List Text) (key : Text) (es : Entries) : Option Entries :=
  descend false (fun _ es =>
    match find? key es with
    | none => some (put key (.table false false []) es)
    | some (.table true false child) => some (put key (.table false false child) es)
    | some _ => none) path false es

/-- One more table of a header `[[…]]`. -/
def addTable (path : List Text) (key : Text) (es : Entries) : Option Entries :=
  descend false (fun _ es =>
    match find? key es with
    | none => some (put key (.tables [[]]) es)
    | some (.tables items) => some (put key (.tables (items ++ [[]])) es)
    | some _ => none) path false es

end Toml
end Doctest
