/-
# The shortest decimal of a binary fraction

A binary fraction here is `m * 2 ^ e` with `m` below `2 ^ 53`.  The rationals that round to it form
an interval around it, ends included exactly when `m` is even.  Its text is the decimal with the
fewest digits in that interval, of two such the nearer one, written without an exponent.

| step | definition |
| --- | --- |
| nearest binary fraction, ties to even | `Binary.nearest` |
| shortest decimal in its rounding interval | `Binary.shortest` |
| positional text | `Decimal.render` |
-/

import Doctest.Text.Basic

namespace Doctest

/-- The binary fraction `significand * 2 ^ exponent`. -/
structure Binary where
  significand : Nat
  exponent : Int
deriving DecidableEq, Repr

/-- The decimal number `digits * 10 ^ exponent`. -/
structure Decimal where
  digits : Nat
  exponent : Int
deriving DecidableEq, Repr

/-- The powers of ten. -/
def powerOfTen (k : Nat) : Nat := Nat.pow 10 k

namespace Binary

/-- Number of bits of a significand. -/
def precision : Nat := 53

/-- The quotient rounded to the nearest integer, a tie to the even one. -/
def roundDiv (num den : Nat) : Nat :=
  let q := num / den
  let r := num % den
  if 2 * r < den then q else if den < 2 * r then q + 1 else if q % 2 = 0 then q else q + 1

/-- The numerator and denominator of `num / den / 2 ^ e`. -/
def scaled (num den : Nat) (e : Int) : Nat × Nat :=
  match e with
  | .ofNat k => (num, den <<< k)
  | .negSucc k => (num <<< (k + 1), den)

/-- The binary fraction nearest to `num / den`.  The first guess of the exponent comes from the
lengths of the two numbers and is at most one too small. -/
def nearest (num den : Nat) : Binary :=
  if num = 0 then ⟨0, 0⟩
  else
    let guess : Int := (num.log2 : Int) - den.log2 - precision
    let (n, d) := scaled num den guess
    let e := if 1 <<< precision ≤ n / d then guess + 1 else guess
    let (n, d) := scaled num den e
    let m := roundDiv n d
    if m = 1 <<< precision then ⟨1 <<< (precision - 1), e + 1⟩ else ⟨m, e⟩

/-- The fraction as a quotient of natural numbers. -/
def toQuotient (x : Binary) : Nat × Nat :=
  match x.exponent with
  | .ofNat k => (x.significand <<< k, 1)
  | .negSucc k => (x.significand, 1 <<< (k + 1))

/-- The sum, rounded. -/
def add (x y : Binary) : Binary :=
  let (a, b) := x.toQuotient
  let (c, d) := y.toQuotient
  nearest (a * d + c * b) (b * d)

/-- The distances of the two ends of the rounding interval from the fraction, below and above, in
quarters of `2 ^ exponent`: below a power of two the grid is twice as fine. -/
def reach (x : Binary) : Nat × Nat :=
  if x.significand = 1 <<< (precision - 1) then (1, 2) else (2, 2)

/-- Whether `num / den` rounds to the fraction: it lies within the interval, whose ends belong to
it when the significand is even. -/
def admits (x : Binary) (num den : Nat) : Bool :=
  let (below, above) := x.reach
  let (n, d) := scaled num den x.exponent
  let lo := (4 * x.significand - below) * d
  let hi := (4 * x.significand + above) * d
  if x.significand % 2 = 0 then lo ≤ 4 * n && 4 * n ≤ hi else lo < 4 * n && 4 * n < hi

/-- The greatest exponent `k ≤ e` with `10 ^ k ≤ num / den`, searched from `e` downwards. -/
def magnitude (num den : Nat) : Nat → Int → Int
  | 0, e => e
  | fuel + 1, e =>
    let reached : Bool := match e with
      | .ofNat k => den * powerOfTen k ≤ num
      | .negSucc k => den ≤ num * powerOfTen (k + 1)
    if reached then e else magnitude num den fuel (e - 1)

/-- The number `d * 10 ^ e` as a quotient. -/
def decimalQuotient (d : Nat) (e : Int) : Nat × Nat :=
  match e with
  | .ofNat k => (d * powerOfTen k, 1)
  | .negSucc k => (d, powerOfTen (k + 1))

/-- The decimal with the fewest digits that rounds to the fraction: for each length in turn the two
decimals of that length on either side of the fraction are tried, the nearer one first. -/
def shortestFrom (x : Binary) (num den : Nat) (top : Int) : Nat → Nat → Decimal
  | 0, _ => ⟨num, 0⟩
  | fuel + 1, length =>
    let e := top - (length : Int) + 1
    let (n, d) : Nat × Nat := match e with
      | .ofNat k => (num, den * powerOfTen k)
      | .negSucc k => (num * powerOfTen (k + 1), den)
    let q := n / d
    let fits (v : Nat) : Bool :=
      let (a, b) := decimalQuotient v e
      x.admits a b
    let upFirst : Bool := d < 2 * (n % d)
    let first := if upFirst then q + 1 else q
    let second := if upFirst then q else q + 1
    if fits first then ⟨first, e⟩
    else if fits second then ⟨second, e⟩
    else shortestFrom x num den top fuel (length + 1)

/-- The shortest decimal that rounds to the fraction.  Seventeen digits always suffice. -/
def shortest (x : Binary) : Decimal :=
  if x.significand = 0 then ⟨0, 0⟩
  else
    let (num, den) := x.toQuotient
    let top := magnitude num den 400 (num.log2 : Int)
    shortestFrom x num den top 17 1

end Binary

namespace Decimal

/-- The positional text: no exponent, no point in a whole number. -/
def render (x : Decimal) : Text :=
  let ds := Text.ofNat x.digits
  match x.exponent with
  | .ofNat k => if x.digits = 0 then ds else ds ++ Text.repeated k '0'
  | .negSucc k =>
    let places := k + 1
    let padded := Text.repeated (places + 1 - ds.length) '0' ++ ds
    let whole := padded.take (padded.length - places)
    let part := Text.trimEndWhile (· = '0') (padded.drop (padded.length - places))
    if part = [] then whole else whole ++ ['.'] ++ part

end Decimal

end Doctest
