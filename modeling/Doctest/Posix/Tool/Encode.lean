/-
# Bytes as text

`base64` writes bytes in letters and digits, and `od` as octal numbers, hexadecimal ones or
characters.
-/

import Doctest.Posix.Tool.Filters

namespace Doctest
namespace Tool

/-! ## Letters and digits -/

namespace Base64

/-- The letters, by what they stand for. -/
def letters : Octets := "ABCDEFGHIJKLMNOPQRSTUVWXYZabcdefghijklmnopqrstuvwxyz0123456789+/".toList

/-- The letters for the bytes of a group of three, which may be incomplete. -/
def encodeGroup (bs : Octets) : Octets :=
  let n := (bs ++ List.replicate (3 - bs.length) '\x00').foldl (fun n b => n * 256 + b.toNat) 0
  let all := [n / 262144, n / 4096, n / 64, n].map fun k => letters[k % 64]?.getD '='
  all.take (bs.length + 1) ++ List.replicate (3 - bs.length) '='

/-- The letters for bytes. -/
def encode (t : Octets) : Octets := (Octets.chunks 3 (t.length + 1) t).flatMap encodeGroup

/-- The bytes that the letters of a group of four stand for, if they are in order. -/
def decodeGroup? (group : Octets) : Option Octets := do
  let ls := group.takeWhile (· ≠ '=')
  let values ← ls.mapM fun c => letters.findIdx? (· = c)
  if group.length ≠ 4 || ls.length < 2 || !(group.drop ls.length).all (· = '=') then none
  else
    let n := (values ++ List.replicate (4 - ls.length) 0).foldl (fun n v => n * 64 + v) 0
    return ([n / 65536, n / 256, n].map Octets.byte).take (ls.length - 1)

example : encode "hi".toList = "aGk=".toList ∧ decodeGroup? "aGk=".toList = some "hi".toList := by
  decide +kernel

end Base64

/-- Lines of the given width. -/
def wrapped (width : Nat) (t : Octets) : Octets :=
  if width = 0 then t else unlines (Octets.chunks width (t.length + 1) t)

/-- Writes bytes in letters and digits, or reads them. -/
def base64 (c : Call) : Reply :=
  c.withArguments "d" "w" 1 fun a =>
    let width := (a.value? 'w').getD "76".toList
    match Octets.nat? width, a.rest with
    | none, _ => c.refuse ("invalid wrap size: ".toList ++ Quoting.text width) 1
    | some _, _ :: extra :: _ => c.usage ("extra operand ".toList ++ Quoting.text extra) 1
    | some width, paths =>
      if !a.has 'd' then c.filterAll paths fun t => wrapped width (Base64.encode t)
      else
        let (found, complaints) := c.sources paths
        let t := (found.flatMap Prod.snd).filter (· ≠ '\n')
        let groups := (Octets.chunks 4 (t.length + 1) t).map Base64.decodeGroup?
        let fine := groups.takeWhile Option.isSome
        let bad := fine.length ≠ groups.length
        ⟨(fine.map (·.getD [])).flatten,
          complaints ++ (if bad then c.name ++ ": invalid input\n".toList else []),
          if bad || complaints ≠ [] then 1 else 0, c.files, Call.needOf paths⟩

/-! ## Numbers -/

/-- A number in a base, with at least so many digits. -/
def inBase (base width n : Nat) : Octets :=
  let ds := Nat.toDigits base n
  List.replicate (width - ds.length) '0' ++ ds

/-- How bytes are written: in a base, or as characters where there is none; so many bytes make a
number of so many digits. -/
structure DumpKind where
  base? : Option Nat
  size : Nat
  width : Nat

namespace DumpKind

/-- A byte as a character or an escape. -/
def character (n : Nat) : Octets :=
  match "\x00\x07\x08\t\n\x0b\x0c\r".toList.findIdx? (·.toNat = n) with
  | some i => ['\\', ("0abtnvfr".toList[i]?).getD ' ']
  | none => if 32 ≤ n && n < 127 then [Octets.byte n] else inBase 8 3 n

/-- The text of a number, given by its bytes, the low one first. -/
def text (k : DumpKind) (bs : Octets) : Octets :=
  let n := bs.reverse.foldl (fun n b => n * 256 + b.toNat) 0
  rightAligned (k.width + 1) <| match k.base? with
    | some base => inBase base (if base = 10 then 1 else k.width) n
    | none => character n

/-- The kind that letters name. -/
def named? : String → Option DumpKind
  | "b" | "o1" => some ⟨some 8, 1, 3⟩
  | "o" | "o2" => some ⟨some 8, 2, 6⟩
  | "x1" => some ⟨some 16, 1, 2⟩
  | "x" | "x2" => some ⟨some 16, 2, 4⟩
  | "u1" => some ⟨some 10, 1, 3⟩
  | "c" => some ⟨none, 1, 3⟩
  | _ => none

end DumpKind

/-- Writes bytes as numbers or characters, sixteen in a row. -/
def od (c : Call) : Reply :=
  c.withArguments "bcoxv" "At" 1 fun a =>
    let name := (a.value? 't').getD ((a.letters.filter (· ≠ 'v')).take 1)
    match DumpKind.named? (String.ofList (if name = [] then ['o'] else name)) with
    | none => c.refuse ("invalid type string ".toList ++ Quoting.text name) 1
    | some kind => c.filterAll a.rest fun t =>
      let address (n : Nat) : Octets :=
        if a.value? 'A' = some ['n'] then [] else inBase 8 7 n
      let row (bs : Octets) (i : Nat) : Octets :=
        address (16 * i) ++ (Octets.chunks kind.size 16 bs).flatMap kind.text ++ ['\n']
      -- Rows that repeat the one before them are shown as one star.
      let runs := (Octets.chunks 16 (t.length + 1) t).zipIdx.splitBy fun x y =>
        !a.has 'v' && x.1 = y.1
      let shown := runs.flatMap fun run => match run with
        | [] => []
        | (bs, i) :: more => row bs i ++ (if more = [] then [] else "*\n".toList)
      shown ++ (if a.value? 'A' = some ['n'] then [] else address t.length ++ ['\n'])

end Tool
end Doctest
