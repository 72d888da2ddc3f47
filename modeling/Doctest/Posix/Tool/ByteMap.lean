/-
# Mapping bytes

`tr` maps the bytes of one set to those of another, deletes them, or leaves one of several in a row.

| in a set | |
| --- | --- |
| `a-z` | the bytes from one to another |
| `[:digit:]` | a class |
| `\` and a letter or octal digits | the byte that the escape stands for |
-/

import Doctest.Posix.Tool.Basic
import Doctest.Posix.CharSet
import Doctest.Posix.Format

namespace Doctest
namespace Tool
namespace ByteMap

/-- All bytes from one to another. -/
def between (lo hi : Char) : List Char :=
  (List.range (hi.toNat + 1 - lo.toNat)).map fun i => Char.ofNat (lo.toNat + i)

/-- A byte at the start of a text, which may be written as an escape, and what follows it. -/
def single? : Octets → Option (Char × Octets)
  | [] => none
  | '\\' :: c :: t =>
    if Format.letter? c ≠ none || Octets.isOctal c then
      let (b, rest) := Format.escape .shell (c :: t)
      some (b.headD c, rest)
    else some (c, t)
  | c :: t => some (c, t)

/-- The bytes of a set; `fuel` bounds its parts. -/
def bytes : Nat → Octets → Except Octets (List Char)
  | 0, _ => .ok []
  | fuel + 1, t => do
    if let some (ranges, rest) := CharSet.class? t then
      return ranges.flatMap (fun (lo, hi) => between lo hi) ++ (← bytes fuel rest)
    match single? t with
    | none => return []
    | some (lo, '-' :: rest) =>
      match single? rest with
      | some (hi, after) =>
        if hi < lo then
          throw ("range-endpoints of '".toList ++ t.take (t.length - after.length) ++
            "' are in reverse collating sequence order".toList)
        else return between lo hi ++ (← bytes fuel after)
      | none => return [lo, '-']
    | some (c, rest) => return c :: (← bytes fuel rest)

/-- The partner of a byte in the second of two sets; the last byte of that set is the partner of all
that lack one, and the later of two pairs counts. -/
def partner (from_ to_ : List Char) (c : Char) : Char :=
  let padded := to_ ++ List.replicate (from_.length - to_.length) (to_.getLast?.getD ' ')
  ((from_.zip padded).reverse.lookup c).getD c

/-- A text with one of several equal bytes in a row that are in a set. -/
def squeeze (s : List Char) (t : Octets) : Octets :=
  (t.splitBy fun x y => x = y && s.contains x).flatMap fun run => match run with
    | c :: _ => [c]
    | [] => []

end ByteMap

open ByteMap in
/-- Maps, deletes or squeezes bytes. -/
def tr (c : Call) : Reply :=
  c.withArguments "cCds" "" 1 fun a =>
    match a.rest.mapM fun t => bytes (t.length + 1) t with
    | .error e => c.refuse e 1
    | .ok sets =>
      let first (cs : List Char) : List Char :=
        if a.hasAny "cC" then
          ((List.range 256).map Char.ofNat).filter fun x => !cs.contains x
        else cs
      let finish (f : Octets → Octets) : Reply := ⟨f c.input, [], 0, c.files, .lines⟩
      match a.has 'd', a.has 's', sets with
      | _, _, [] => c.usage "missing operand".toList 1
      | true, false, [s] => finish fun t => t.filter fun x => !(first s).contains x
      | false, true, [s] => finish (squeeze (first s))
      | false, squeezes, [s, d] =>
        if d = [] then c.refuse "when not truncating set1, string2 must be non-empty".toList 1
        else finish fun t =>
          let t := t.map (partner (first s) d)
          if squeezes then squeeze d t else t
      | _, _, [_] =>
        c.usage ("missing operand after ".toList ++ Quoting.text (a.rest.headD [])) 1
      | _, _, _ => c.usage ("extra operand ".toList ++ Quoting.text (a.rest[1]?.getD [])) 1

end Tool
end Doctest
