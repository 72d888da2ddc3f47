/-
# Octets

Programs of the machine work on bytes, whatever these encode.  A byte is written as the character
with its number, so that patterns, scripts and their data can be spelled out.
-/

import Doctest.Text.Utf8

namespace Doctest

/-- A sequence of bytes, each written as a character below 256. -/
abbrev Octets := Text

namespace Octets

/-- The sequence of the given bytes. -/
def ofBytes (bs : Bytes) : Octets := bs.map fun b => Char.ofNat b.toNat

/-- The bytes of a sequence. -/
def toBytes (o : Octets) : Bytes := o.map fun c => UInt8.ofNat c.toNat

/-- The bytes that encode a text. -/
def ofText (t : Text) : Octets := ofBytes (Text.encode t)

/-- The text that the bytes encode, if they encode one. -/
def toText? (o : Octets) : Option Text := Text.decode? (toBytes o)

/-- The text that the bytes encode, with replacement characters where they encode none. -/
def toText (o : Octets) : Text := Text.decodeLenient (toBytes o)

/-- The byte of the given number, taken modulo 256. -/
def byte (n : Nat) : Char := Char.ofNat (n % 256)

/-- The value of a hexadecimal digit. -/
def digitValue? (c : Char) : Option Nat :=
  if '0' ≤ c && c ≤ '9' then some (c.toNat - '0'.toNat)
  else if 'a' ≤ c && c ≤ 'f' then some (c.toNat - 'a'.toNat + 10)
  else if 'A' ≤ c && c ≤ 'F' then some (c.toNat - 'A'.toNat + 10)
  else none

/-- The number that digits write in a base of at most sixteen. -/
def digitsValue (base : Nat) (digits : Octets) : Nat :=
  digits.foldl (fun n c => n * base + (digitValue? c).getD 0) 0

/-- Whether the byte is a digit. -/
def isDigit (c : Char) : Bool := '0' ≤ c && c ≤ '9'

/-- Whether the byte is an octal digit. -/
def isOctal (c : Char) : Bool := '0' ≤ c && c ≤ '7'

/-- The number that a text of digits writes, with a sign or without. -/
def int? (o : Octets) : Option Int :=
  let (sign, digits) : Int × Octets := match o with
    | '-' :: ds => (-1, ds)
    | '+' :: ds => (1, ds)
    | ds => (1, ds)
  if digits ≠ [] && digits.all isDigit then some (sign * digitsValue 10 digits) else none

/-- The number that a text of digits writes. -/
def nat? (o : Octets) : Option Nat :=
  if o ≠ [] && o.all isDigit then some (digitsValue 10 o) else none

/-- The pieces of a sequence, each of which ends after a byte that satisfies `p`; the last one may
lack such a byte. -/
def pieces (p : Char → Bool) (o : Octets) : List Octets :=
  let (open_, ls) : Octets × List Octets := o.foldl (fun (open_, ls) c =>
    if p c then ([], (c :: open_).reverse :: ls) else (c :: open_, ls)) ([], [])
  (if open_ = [] then ls else open_.reverse :: ls).reverse

/-- The lines of a sequence, line feeds included. -/
def rawLines (o : Octets) : List Octets := pieces (· = '\n') o

/-- The pieces between the bytes of one kind; always at least one piece. -/
def split (sep : Char) (o : Octets) : List Octets :=
  let (open_, ls) : Octets × List Octets := o.foldl (fun (open_, ls) c =>
    if c = sep then ([], open_.reverse :: ls) else (c :: open_, ls)) ([], [])
  (open_.reverse :: ls).reverse

/-- The lines of a sequence without their line feeds. -/
def lines (o : Octets) : List Octets :=
  let ls := split '\n' o
  if ls.getLast? = some [] then ls.dropLast else ls

/-- The words between blanks, tabs and line feeds. -/
def words (o : Octets) : List Octets :=
  let isBlank (c : Char) : Bool := c = ' ' || c = '\t' || c = '\n'
  (o.splitBy fun x y => isBlank x == isBlank y).filter fun w => !w.any isBlank

/-- A list cut into runs of the same length; `fuel` bounds their number. -/
def chunks {α : Type} (n : Nat) : Nat → List α → List (List α)
  | 0, _ | _, [] => []
  | fuel + 1, xs => xs.take n :: chunks n fuel (xs.drop n)

example : rawLines "a\n\nb".toList = [['a', '\n'], ['\n'], ['b']] ∧
    lines "a\n\nb\n".toList = [['a'], [], ['b']] := by decide +kernel

end Octets
end Doctest
