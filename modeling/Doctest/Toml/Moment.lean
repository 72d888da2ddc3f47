/-
# Dates and times of a settings file

| value | written |
| --- | --- |
| date | `1979-05-27` |
| time | `07:32:00`, with a fraction of the second or without |
| both | a date, then `T`, `t` or one space, then a time |
| both at a place | date and time, then `Z`, `z` or a distance such as `-08:00` |

A minute may have a leap second, so that seconds go up to 60.
-/

import Doctest.Toml.Lexeme

namespace Doctest
namespace Toml

/-- A number of exactly `n` decimal digits between two bounds. -/
def fixedNumber (n lo hi : Nat) : Reader Nat := fun t => do
  let written := t.take n
  if written.length < n || !written.all Char.isDigit then none
  else
    let number := written.foldl (fun acc c => acc * 10 + (c.toNat - 48)) 0
    if lo ≤ number && number ≤ hi then some (number, t.drop n) else none

/-- A character of a list. -/
def oneOf (cs : List Char) : Reader Char
  | c :: t => if cs.contains c then some (c, t) else none
  | [] => none

/-- Whether a year has a 29 February. -/
def isLeapYear (year : Nat) : Bool := year % 4 = 0 && (year % 100 ≠ 0 || year % 400 = 0)

/-- Number of days of a month. -/
def daysOfMonth (year month : Nat) : Nat :=
  if month = 2 then if isLeapYear year then 29 else 28
  else if month = 4 || month = 6 || month = 9 || month = 11 then 30 else 31

/-- The text after a date. -/
def afterDate? (t : Text) : Option Text := do
  let (year, t) ← fixedNumber 4 0 9999 t
  let (_, t) ← oneOf ['-'] t
  let (month, t) ← fixedNumber 2 1 12 t
  let (_, t) ← oneOf ['-'] t
  let (_, t) ← fixedNumber 2 1 (daysOfMonth year month) t
  some t

/-- The text after the fraction of a second, if there is one. -/
def afterFraction (t : Text) : Text :=
  match t with
  | '.' :: rest =>
    let run := rest.takeWhile Char.isDigit
    if run = [] then t else rest.drop run.length
  | t => t

/-- The text after a time of day. -/
def afterTime? (t : Text) : Option Text := do
  let (_, t) ← fixedNumber 2 0 23 t
  let (_, t) ← oneOf [':'] t
  let (_, t) ← fixedNumber 2 0 59 t
  let (_, t) ← oneOf [':'] t
  let (_, t) ← fixedNumber 2 0 60 t
  some (afterFraction t)

/-- The text after the place's distance from universal time. -/
def afterOffset? (t : Text) : Option Text := do
  let (mark, t) ← oneOf ['Z', 'z', '+', '-'] t
  if mark = 'Z' || mark = 'z' then some t
  else
    let (_, t) ← fixedNumber 2 0 23 t
    let (_, t) ← oneOf [':'] t
    let (_, t) ← fixedNumber 2 0 59 t
    some t

/-- The text after a date, a time or both. -/
def afterMoment? (t : Text) : Option Text :=
  match afterDate? t with
  | none => afterTime? t
  | some rest =>
    match (oneOf ['T', 't', ' '] rest).bind fun (_, u) => afterTime? u with
    | none => some rest
    | some rest => some ((afterOffset? rest).getD rest)

/-- A date, a time or both, as written. -/
def moment : Reader Text := fun t =>
  (afterMoment? t).map fun rest => (t.take (t.length - rest.length), rest)

/-- A century has a leap year only if four hundred divides it. -/
example : daysOfMonth 2000 2 = 29 ∧ daysOfMonth 1900 2 = 28 ∧ daysOfMonth 1979 5 = 31 := by decide

end Toml
end Doctest
