/-
# Floating-point numbers of a settings file

A number with a fraction, an exponent or both, or one of the words `inf` and `nan`; a sign may stand
before each of them:

| part | written |
| --- | --- |
| whole part | decimal digits without zeros before the first |
| fraction | a point and digits |
| exponent | `e` or `E`, a sign or none, and digits |

Single underscores may stand between digits.  A positive number too large for 64 bits is refused.
-/

import Doctest.Toml.Lexeme
import Doctest.Decimal.Shortest

namespace Doctest
namespace Toml

/-- The least number that is rounded to infinity: half a unit of the last place above the largest
number of 64 bits. -/
def overflowBound : Nat := (1 <<< 1024) - (1 <<< 970)

/-- Whether `n` · 10 to the power `scale` is rounded to infinity.  The count of its digits decides,
unless it has about as many as the bound. -/
def overflows (n : Nat) (scale : Int) : Bool :=
  let size : Int := (Nat.toDigits 10 n).length + scale
  if n = 0 || size < 300 then false
  else if 320 < size then true
  else if 0 ≤ scale then overflowBound ≤ n * powerOfTen scale.toNat
  else overflowBound * powerOfTen (-scale).toNat ≤ n

/-- A fraction: the number that its digits make and how many they are. -/
def fraction : Reader (Nat × Nat)
  | '.' :: t => do
    let (n, rest) ← digits 10 0 false t
    let written := t.take (t.length - rest.length)
    some ((n, (written.filter (· ≠ '_')).length), rest)
  | _ => none

/-- An exponent. -/
def exponent : Reader Int
  | c :: t =>
    if c = 'e' || c = 'E' then
      match t with
      | '-' :: t => (digits 10 0 false t).map fun (n, t) => (-(n : Int), t)
      | '+' :: t => (digits 10 0 false t).map fun (n, t) => ((n : Int), t)
      | t => (digits 10 0 false t).map fun (n, t) => ((n : Int), t)
    else none
  | [] => none

/-- The text after a number that has a fraction or an exponent, and whether it is too large. -/
def afterMagnitude? (t : Text) : Option (Bool × Text) := do
  let (whole, t) ← decimal t
  match fraction t, exponent t with
  | some ((part, places), t), _ =>
    let n := whole * powerOfTen places + part
    match exponent t with
    | some (e, t) => some (overflows n (e - places), t)
    | none => some (overflows n (-(places : Int)), t)
  | none, some (e, t) => some (overflows whole e, t)
  | none, none => none

/-- The text after a floating-point number. -/
def afterFloat? (t : Text) : Option Text := do
  let (isNegative, body) : Bool × Text :=
    match t with
    | '-' :: t => (true, t)
    | '+' :: t => (false, t)
    | t => (false, t)
  match body with
  | 'i' :: 'n' :: 'f' :: rest => some rest
  | 'n' :: 'a' :: 'n' :: rest => some rest
  | body =>
    let (tooLarge, rest) ← afterMagnitude? body
    if tooLarge && !isNegative then none else some rest

/-- A floating-point number, as written. -/
def float : Reader Text := fun t =>
  (afterFloat? t).map fun rest => (t.take (t.length - rest.length), rest)

end Toml
end Doctest
