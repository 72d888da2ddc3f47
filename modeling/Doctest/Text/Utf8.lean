/-
# UTF-8

| first byte | bytes | second byte |
| --- | ---: | --- |
| `00` to `7F` | 1 | |
| `C2` to `DF` | 2 | `80` to `BF` |
| `E0` | 3 | `A0` to `BF` |
| `E1` to `EC`, `EE`, `EF` | 3 | `80` to `BF` |
| `ED` | 3 | `80` to `9F` |
| `F0` | 4 | `90` to `BF` |
| `F1` to `F3` | 4 | `80` to `BF` |
| `F4` | 4 | `80` to `8F` |

Every later byte is in `80` to `BF`.  No other sequence encodes a character.  A lenient reader puts
one replacement character for each longest run of bytes that starts a sequence of the table and
cannot be completed, or for one byte that starts none.
-/

import Doctest.Text.Basic

namespace Doctest

/-- Raw bytes: the contents of a file or what a program writes. -/
abbrev Bytes := List UInt8

namespace Text

/-- The UTF-8 encoding. -/
def encode (t : Text) : Bytes := t.flatMap String.utf8EncodeChar

/-- What the first byte of a sequence says: how many bytes follow, the range of the second byte,
and the bits of the code point that the first byte carries. -/
structure Lead where
  following : Nat
  least : Nat
  greatest : Nat
  bits : Nat

/-- The row of the table for a first byte. -/
def Lead.ofByte? (b : Nat) : Option Lead :=
  if b ≤ 0x7f then some ⟨0, 0x80, 0xbf, b⟩
  else if 0xc2 ≤ b ∧ b ≤ 0xdf then some ⟨1, 0x80, 0xbf, b - 0xc0⟩
  else if b = 0xe0 then some ⟨2, 0xa0, 0xbf, 0⟩
  else if b = 0xed then some ⟨2, 0x80, 0x9f, 0xd⟩
  else if 0xe1 ≤ b ∧ b ≤ 0xef then some ⟨2, 0x80, 0xbf, b - 0xe0⟩
  else if b = 0xf0 then some ⟨3, 0x90, 0xbf, 0⟩
  else if 0xf1 ≤ b ∧ b ≤ 0xf3 then some ⟨3, 0x80, 0xbf, b - 0xf0⟩
  else if b = 0xf4 then some ⟨3, 0x80, 0x8f, 4⟩
  else none

/-- The outcome of reading one sequence: the character, or nothing when the bytes break off, and
how many bytes were taken after the first. -/
structure Taken where
  char? : Option Char
  count : Nat

/-- Reads the `n` bytes that follow, the first of them between `lo` and `hi`. -/
def takeFollowing : Nat → Nat → Nat → Nat → Bytes → Taken
  | 0, _, _, code, _ => ⟨some (Char.ofNat code), 0⟩
  | _ + 1, _, _, _, [] => ⟨none, 0⟩
  | n + 1, lo, hi, code, b :: bs =>
    if lo ≤ b.toNat ∧ b.toNat ≤ hi then
      let t := takeFollowing n 0x80 0xbf (code * 64 + (b.toNat - 0x80)) bs
      ⟨t.char?, t.count + 1⟩
    else ⟨none, 0⟩

/-- Reads the sequence that starts with the byte `b`. -/
def takeChar (b : UInt8) (bs : Bytes) : Taken :=
  match Lead.ofByte? b.toNat with
  | some l => takeFollowing l.following l.least l.greatest l.bits bs
  | none => ⟨none, 0⟩

/-- The text that the bytes encode, if they encode one. -/
def decode? (bs : Bytes) : Option Text :=
  match bs with
  | [] => some []
  | b :: bs =>
    let t := takeChar b bs
    match t.char? with
    | some c => (decode? (bs.drop t.count)).map (c :: ·)
    | none => none
termination_by bs.length
decreasing_by simp only [List.length_cons, List.length_drop]; omega

/-- The text that the bytes encode, with a replacement character for each run of bytes that
encodes none. -/
def decodeLenient (bs : Bytes) : Text :=
  match bs with
  | [] => []
  | b :: bs =>
    let t := takeChar b bs
    t.char?.getD '\ufffd' :: decodeLenient (bs.drop t.count)
termination_by bs.length
decreasing_by simp only [List.length_cons, List.length_drop]; omega

example : decodeLenient [0xff, 0xc3, 0x28, 0xe2, 0x82, 0x78] =
    ['\ufffd', '\ufffd', '(', '\ufffd', 'x'] := by
  decide +kernel

end Text
end Doctest
