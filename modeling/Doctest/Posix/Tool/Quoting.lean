/-
# Quoting in complaints

A path in a complaint is written so that the shell would read it as one word; other texts are put
between single quotation marks, with escapes.

| path | written |
| --- | --- |
| `a.txt` | `a.txt`, or `'a.txt'` where quotation marks are always put |
| `a b` | `'a b'` |
| `it's` | `"it's"` |
| `it's $1` | `'it'\''s $1'` |
| `a`, a tab, `b` | `'a'$'\t''b'` |
-/

import Doctest.Posix.Octets

namespace Doctest
namespace Quoting

/-- Whether a byte can be seen. -/
def isVisible (c : Char) : Bool := ' ' ≤ c && c ≤ '~'

/-- The letters of the escapes for the bytes from 7 to 13. -/
def escapeLetters : List Char := "abtnvfr".toList

/-- A byte that cannot be seen as an escape. -/
def escape (c : Char) : Octets :=
  let n := c.toNat
  let digit (d : Nat) : Char := Char.ofNat (48 + d % 8)
  if 7 ≤ n && n ≤ 13 then ['\\', escapeLetters[n - 7]?.getD 'x']
  else ['\\', digit (n / 64), digit (n / 8), digit n]

/-- Whether the shell would read a path as another word or as several ones. -/
def isSpecial (t : Octets) : Bool :=
  t = [] || t = ['\x7b'] || t = ['\x7d'] || t.head? = some '#' || t.head? = some '~' ||
    t.any fun c => !isVisible c || " !\"$&()*;<=>?[\\^\x60|:'".toList.contains c

/-- Whether a byte may stand between double quotation marks as it is. -/
def isHarmless (c : Char) : Bool := c.isAlphanum || " '%+,-./:]_@".toList.contains c

/-- The bytes of a text between single quotation marks, where an escape stands or not. -/
def pieces : Octets → Bool → Octets
  | [], _ => []
  | c :: t, escaping =>
    if isVisible c then
      (if escaping then "''".toList else []) ++
        (if c = '\'' then "'\\''".toList else [c]) ++ pieces t false
    else (if escaping then [] else "'$'".toList) ++ escape c ++ pieces t true

/-- A path between quotation marks. -/
def always (p : Octets) : Octets :=
  if p.any (· = '\'') && p.all isHarmless then ['"'] ++ p ++ ['"']
  else
    let front := if p.any (· = '\'') && !p.all isVisible then "''".toList else []
    front ++ ['\''] ++ pieces p false ++ ['\'']

/-- A path between quotation marks if the shell would not take it as it is. -/
def ifNeeded (p : Octets) : Octets := if isSpecial p then always p else p

/-- A text between single quotation marks. -/
def text (t : Octets) : Octets :=
  ['\''] ++ t.flatMap (fun c =>
    if c = '\'' || c = '\\' then ['\\', c] else if isVisible c then [c] else escape c) ++ ['\'']

end Quoting
end Doctest
