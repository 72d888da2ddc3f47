/-
# Programs that put lines in order

`sort` and `uniq`.  Bytes are compared by their numbers.

A key of a line reaches from the start of some field to the end of another; keys are compared one
after the other, each in its own way, and lines whose keys are the same are compared as they are.
-/

import Doctest.Posix.Tool.Filters

namespace Doctest
namespace Tool

/-- The order of two texts by their bytes. -/
def compareBytes (a b : Octets) : Ordering := compare (a.map Char.toNat) (b.map Char.toNat)

/-- Whether a byte is a blank. -/
def isBlank (c : Char) : Bool := c = ' ' || c = '\t'

namespace Sorting

/-- The whole number at the start of a text, or zero. -/
def numberAt (t : Octets) : Int :=
  match t.dropWhile isSpace with
  | '-' :: r => -(Octets.digitsValue 10 (r.takeWhile Octets.isDigit) : Int)
  | r => Octets.digitsValue 10 (r.takeWhile Octets.isDigit)

/-- The order of two texts in the way that letters ask for: as numbers (`n`), or without regard to
blanks in front (`b`) and to case (`f`). -/
def orderBy (letters : List Char) (a b : Octets) : Ordering :=
  let shape (t : Octets) : Octets :=
    let t := if letters.contains 'b' then t.dropWhile isBlank else t
    if letters.contains 'f' then t.map Char.toUpper else t
  let order := if letters.contains 'n' then compare (numberAt a) (numberAt b)
    else compareBytes (shape a) (shape b)
  if letters.contains 'r' then order.swap else order

/-- A key: the fields from which and up to which it reaches, counted from 1, and how it is
compared. -/
structure Key where
  first : Nat
  last? : Option Nat
  letters : List Char

/-- A key as it is written; `all` are the letters for keys that have none. -/
def Key.ofText? (all : List Char) (t : Octets) : Option Key :=
  let end? (t : Octets) : Option (Nat × List Char) :=
    let digits := t.takeWhile Octets.isDigit
    let letters := t.drop digits.length
    match Octets.nat? digits with
    | none | some 0 => none
    | some n => if letters.all ("bfnr".toList.contains ·) then some (n, letters) else none
  let key (first : Nat) (last? : Option Nat) (letters : List Char) : Key :=
    ⟨first, last?, if letters = [] then all else letters⟩
  match Octets.split ',' t with
  | [a] => (end? a).map fun (n, ls) => key n none ls
  | [a, b] => do
    let (m, ls) ← end? a
    let (n, ls') ← end? b
    return key m (some n) (ls ++ ls')
  | _ => none

/-- The fields of a line: the pieces between separators, or words with the blanks before them. -/
def fields (separator? : Option Char) (l : Octets) : List Octets :=
  match separator? with
  | some s => Octets.split s l
  | none => l.splitBy fun x y => isBlank x || !isBlank y

/-- The part of a line that a key is. -/
def Key.of (k : Key) (separator? : Option Char) (l : Octets) : Octets :=
  let fs := fields separator? l
  let fs := match k.last? with
    | some n => fs.take n
    | none => fs
  Text.join separator?.toList (fs.drop (k.first - 1))

/-- The order of two lines by their keys. -/
def compareKeys (keys : List Key) (separator? : Option Char) (a b : Octets) : Ordering :=
  keys.foldl (fun order k =>
    order.then (orderBy k.letters (k.of separator? a) (k.of separator? b))) .eq

end Sorting

/-- Sorts lines. -/
def sort (c : Call) : Reply :=
  c.withArguments "bfnrsu" "kto" 2 fun a =>
    let letters := a.letters.filter ("bfnr".toList.contains ·)
    let separator? := (a.value? 't').bind List.head?
    match (a.valuesOf 'k').mapM (Sorting.Key.ofText? letters) with
    | none =>
      c.refuse ("invalid number at field start: invalid count at start of ".toList ++
        Quoting.text ((a.value? 'k').getD [])) 2
    | some keys =>
      let keys := if keys = [] then [⟨1, none, letters⟩] else keys
      let byKeys (x y : Octets) : Ordering := Sorting.compareKeys keys separator? x y
      let order (x y : Octets) : Ordering := (byKeys x y).then <|
        if a.hasAny "su" then .eq
        else if a.has 'r' then compareBytes y x else compareBytes x y
      let (found, complaints) := c.sources a.rest
      let sorted := (found.flatMap fun f => Octets.lines f.2).mergeSort fun x y => order x y != .gt
      let kept := if a.has 'u' then
          ((sorted.splitBy fun x y => byKeys x y == .eq).map fun run => run.headD [])
        else sorted
      let need := Call.needOf a.rest
      if complaints ≠ [] then ⟨[], complaints, 2, c.files, .nothing⟩
      else match a.value? 'o' with
        | none => ⟨unlines kept, [], 0, c.files, need⟩
        | some path =>
          match c.files.write c.cwd path (unlines kept) with
          | .ok files => ⟨[], [], 0, files, need⟩
          | .error e => c.refuse ("open failed: ".toList ++ path ++ ": ".toList ++ reason e) 2

/-- Drops repeated lines. -/
def uniq (c : Call) : Reply :=
  c.withArguments "cdui" "" 1 fun a => c.filterAll a.rest fun t =>
    let key (l : Octets) : Octets := if a.has 'i' then l.map Char.toUpper else l
    let runs := (Octets.lines t).splitBy fun x y => key x == key y
    let kept := runs.filter fun r =>
      (!a.has 'd' || 1 < r.length) && (!a.has 'u' || r.length = 1)
    unlines <| kept.map fun r =>
      (if a.has 'c' then rightAligned 7 (Text.ofNat r.length) ++ [' '] else []) ++ r.headD []

end Tool
end Doctest
