/-
# Values of a settings file

| value | written |
| --- | --- |
| string | `"…"`, `'…'` and both over several lines |
| integer | decimal, `0x…`, `0o…`, `0b…`, in the signed 64-bit range |
| truth value | `true`, `false` |
| floating-point number | with a point, an exponent or both, or `inf`, `nan` |
| date, time | `1979-05-27`, `07:32:00`, or both |
| array | `[…]`, or the tables under one `[[…]]` header |
| table | `{…}`, or what stands under a `[…]` header |

No setting takes a number with a fraction, a date or a time, so these are kept as they are written:
they may stand where a record has more items than fields.
-/

import Doctest.Text.Basic

namespace Doctest
namespace Toml

/-- A value. -/
inductive Value where
  | string (t : Text)
  | integer (n : Int)
  | boolean (b : Bool)
  | float (written : Text)
  | moment (written : Text)
  | array (items : List Value)
  | table (entries : List (Text × Value))

/-- The value of the first entry with the key. -/
def find? {α : Type} (key : Text) : List (Text × α) → Option α
  | [] => none
  | (k, v) :: es => if k = key then some v else find? key es

/-- The value of the last entry with the key replaced, or an entry added at the end. -/
def put {α : Type} (key : Text) (v : α) : List (Text × α) → List (Text × α)
  | [] => [(key, v)]
  | (k, w) :: es => if k = key then (k, v) :: es else (k, w) :: put key v es

namespace Value

/-- The text of a string. -/
def text? : Value → Option Text
  | .string t => some t
  | _ => none

/-- The number of an integer that is not negative. -/
def natural? : Value → Option Nat
  | .integer (.ofNat n) => some n
  | _ => none

/-- The items of an array. -/
def items? : Value → Option (List Value)
  | .array items => some items
  | _ => none

/-- The fields of a record, by the names in their order: the entries of a table without other keys,
or the items of an array from the first on. -/
def fields? (names : List Text) : Value → Option (List (Option Value))
  | .table entries =>
    if entries.all fun e => names.contains e.1 then some (names.map (find? · entries)) else none
  | .array items => some (names.mapIdx fun i _ => items[i]?)
  | _ => none

/-- The name of a choice: a string, or the only key of a table whose value is empty. -/
def choice? : Value → Option Text
  | .string t => some t
  | .table [(key, .table [])] => some key
  | .table [(key, .array [])] => some key
  | _ => none

end Value
end Toml
end Doctest
