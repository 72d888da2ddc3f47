/-
# Quoted texts

A text is quoted so that it stands on one line and can be read back:

| character | written |
| --- | --- |
| `\0` `\t` `\n` `\r` `\` `"` | a backslash and `0` `t` `n` `r` `\` `"` |
| combining or not printable | `\u`, then the code point in lower-case hexadecimal between braces |
| any other, the apostrophe too | itself |

In bytes that encode no character each is written as `\x` and its two digits.
-/

import Doctest.Text.Printable
import Doctest.Text.Combining
import Doctest.Text.Utf8

namespace Doctest
namespace Text

/-- A character by its code point: `\u` and the hexadecimal digits between braces. -/
def escapeCode (c : Char) : Text :=
  "\\u\x7b".toList ++ Nat.toDigits 16 c.toNat ++ "\x7d".toList

/-- One character inside a quoted text. -/
def escapeChar (c : Char) : Text :=
  if c = '\x00' then "\\0".toList
  else if c = '\t' then "\\t".toList
  else if c = '\n' then "\\n".toList
  else if c = '\r' then "\\r".toList
  else if c = '\\' then "\\\\".toList
  else if c = '"' then "\\\"".toList
  else if isCombining c || !isPrintable c then escapeCode c
  else [c]

/-- A text between quotation marks, on one line. -/
def quoted (t : Text) : Text := ['"'] ++ t.flatMap escapeChar ++ ['"']

/-- A byte that belongs to no character: `\x` and its two digits. -/
def escapeByte (b : UInt8) : Text :=
  let digits := (Nat.toDigits 16 b.toNat).map Char.toUpper
  "\\x".toList ++ repeated (2 - digits.length) '0' ++ digits

/-- Bytes inside a quoted text. -/
def escapeBytes (bs : Bytes) : Text :=
  match bs with
  | [] => []
  | b :: bs =>
    let t := takeChar b bs
    (match t.char? with
      | some c => escapeChar c
      | none => (b :: bs.take t.count).flatMap escapeByte) ++ escapeBytes (bs.drop t.count)
termination_by bs.length
decreasing_by simp only [List.length_cons, List.length_drop]; omega

/-- Bytes between quotation marks, as the text that they encode. -/
def quotedBytes (bs : Bytes) : Text := ['"'] ++ escapeBytes bs ++ ['"']

end Text
end Doctest
