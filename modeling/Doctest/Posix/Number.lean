/-
# Numbers with a fraction

A number is read from the longest start of a text that writes one, and written in one of three
forms:

| form | |
| --- | --- |
| fixed | so many places after the point |
| scientific | one digit before the point, so many after it, and the power of ten |
| general | so many digits, in the shorter of the two forms, without zeros at the end |

The digits are those of the exact value of the binary number, and the last one is rounded, a tie to
the even digit.
-/

import Doctest.Posix.Octets
import Doctest.Decimal.Shortest

namespace Doctest
namespace Number

/-- The binary number that a decimal one is rounded to. -/
def ofDecimal (negative : Bool) (digits : Nat) (exponent : Int) : Float :=
  let x := match exponent with
    | .ofNat k => Float.ofScientific (digits * powerOfTen (min k 400)) false 0
    | .negSucc k => Float.ofScientific digits true (k + 1)
  if negative then -x else x

/-- The words for numbers that are none. -/
def words : List (Octets × Float) := [
  ("infinity".toList, 1.0 / 0.0), ("inf".toList, 1.0 / 0.0), ("nan".toList, 0.0 / 0.0)]

/-- The exponent at the start of a text and what follows it; zero if there is none. -/
def readExponent (t : Octets) : Int × Octets :=
  match t with
  | c :: rest =>
    if c = 'e' || c = 'E' then
      let (negative, ds) : Bool × Octets := match rest with
        | '-' :: ds => (true, ds)
        | '+' :: ds => (false, ds)
        | ds => (false, ds)
      let digits := ds.takeWhile Octets.isDigit
      let n : Int := min (Octets.digitsValue 10 digits) 100000
      if digits = [] then (0, t) else (if negative then -n else n, ds.drop digits.length)
    else (0, t)
  | [] => (0, [])

/-- The number at the start of a text, after blanks, and what follows it; `none` if there is no
number. -/
def read? (t : Octets) : Option (Float × Octets) :=
  let t := t.dropWhile fun c => c = ' ' || ('\t' ≤ c && c ≤ '\r')
  let (negative, body) : Bool × Octets := match t with
    | '-' :: t => (true, t)
    | '+' :: t => (false, t)
    | t => (false, t)
  let whole := body.takeWhile Octets.isDigit
  let rest := body.drop whole.length
  let (part, rest) : Octets × Octets := match rest with
    | '.' :: t =>
      let part := t.takeWhile Octets.isDigit
      if whole = [] && part = [] then ([], rest) else (part, t.drop part.length)
    | rest => ([], rest)
  if whole = [] && part = [] then
    words.findSome? fun (w, x) =>
      let start := (body.take w.length).map Char.toLower
      if start = w then some (if negative then -x else x, body.drop w.length) else none
  else
    let (e, rest) := readExponent rest
    some (ofDecimal negative (Octets.digitsValue 10 (whole ++ part)) (e - part.length), rest)

/-- The sign of a number and its size as a quotient; `none` for what is no number. -/
def quotient? (x : Float) : Option (Bool × Nat × Nat) :=
  let bits := x.toBits.toNat
  let negative : Bool := 1 <<< 63 ≤ bits
  let e := bits / (1 <<< 52) % 2048
  let f := bits % (1 <<< 52)
  if e = 2047 then none
  else
    let b : Binary := if e = 0 then ⟨f, -1074⟩ else ⟨f + 1 <<< 52, (e : Int) - 1075⟩
    some (negative, b.toQuotient)

/-- The digits with a point before the last `places` of them. -/
def withPoint (keepsPoint : Bool) (n places : Nat) : Octets :=
  let ds := Text.ofNat n
  let ds := List.replicate (places + 1 - ds.length) '0' ++ ds
  let whole := ds.take (ds.length - places)
  if places = 0 then (if keepsPoint then whole ++ ['.'] else whole)
  else whole ++ '.' :: ds.drop (ds.length - places)

/-- A quotient in the fixed form. -/
def fixed (keepsPoint : Bool) (num den places : Nat) : Octets :=
  withPoint keepsPoint (Binary.roundDiv (num * powerOfTen places) den) places

/-- The digits of a quotient, so many after the first, as one number, and the power of ten of the
first. -/
def leading (num den places : Nat) : Nat × Int :=
  if num = 0 then (0, 0)
  else
    let bits : Int := (num.log2 : Int) - den.log2
    let e := Binary.magnitude num den 800 ((if bits < 0 then bits / 4 else bits / 3) + 3)
    let digits (e : Int) : Nat :=
      match (places : Int) - e with
      | .ofNat k => Binary.roundDiv (num * powerOfTen k) den
      | .negSucc k => Binary.roundDiv num (den * powerOfTen (k + 1))
    let n := digits e
    if powerOfTen (places + 1) ≤ n then (digits (e + 1), e + 1) else (n, e)

/-- The power of ten, with its sign and at least two digits. -/
def exponentText (letter : Char) (e : Int) : Octets :=
  let ds := Text.ofNat e.natAbs
  letter :: (if e < 0 then '-' else '+') :: (List.replicate (2 - ds.length) '0' ++ ds)

/-- A quotient in the scientific form. -/
def scientific (keepsPoint : Bool) (letter : Char) (num den places : Nat) : Octets :=
  let (n, e) := leading num den places
  withPoint keepsPoint n places ++ exponentText letter e

/-- A text without zeros at the end of its places. -/
def withoutZeros (t : Octets) : Octets :=
  if t.any (· = '.') then
    let t := Text.trimEndWhile (· = '0') t
    if t.getLast? = some '.' then t.dropLast else t
  else t

/-- A quotient in the general form. -/
def general (keepsZeros : Bool) (letter : Char) (num den digits : Nat) : Octets :=
  let digits := max 1 digits
  let (n, e) := leading num den (digits - 1)
  let trim (t : Octets) : Octets := if keepsZeros then t else withoutZeros t
  if e < -4 || (digits : Int) ≤ e then
    trim (withPoint keepsZeros n (digits - 1)) ++ exponentText letter e
  else trim (fixed keepsZeros num den ((digits : Int) - 1 - e).toNat)

/-- A number in the form of a letter, without its sign. -/
def render (kind : Char) (alternate : Bool) (precision : Nat) (x : Float) : Octets :=
  match quotient? x with
  | none =>
    let t := if x.isNaN then "nan".toList else "inf".toList
    if kind.isUpper then t.map Char.toUpper else t
  | some (_, num, den) =>
    match kind with
    | 'e' | 'E' => scientific alternate kind num den precision
    | 'g' => general alternate 'e' num den precision
    | 'G' => general alternate 'E' num den precision
    | _ => fixed alternate num den precision

/-- Whether a number is written with a minus sign. -/
def isNegative (x : Float) : Bool := 1 <<< 63 ≤ x.toBits.toNat && !x.isNaN

end Number
end Doctest
