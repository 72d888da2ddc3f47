/-
# Regular expressions

| basic | extended | matches |
| --- | --- | --- |
| `.` `[…]` | `.` `[…]` | one byte |
| `*` `\{m,n\}` `\+` `\?` | `*` `{m,n}` `+` `?` | what precedes it, repeated |
| `\(…\)` | `(…)` | a group |
| `\1` | `\1` | what the group matched |
| `\|` | `|` | either side |
| `^` at a start, `$` at an end | `^` `$` | the ends of the text |
| `\<` `\>` | the same | the start and the end of a word |

In a basic expression a `*` that nothing precedes stands for itself.  Of the matches of an
expression the leftmost counts, and of these one that takes as much as possible at each repetition
from left to right; between the two sides of a choice the longest match as a whole decides.
-/

import Doctest.Posix.CharSet

namespace Doctest

/-- A regular expression.  `look` asks whether the byte before a point and the byte after it are
part of a word. -/
inductive Regex where
  | empty
  | one (s : CharSet)
  | start
  | stop
  | both (a b : Regex)
  | either (a b : Regex)
  | times (a : Regex) (least : Nat) (most : Option Nat)
  | group (number : Nat) (a : Regex)
  | again (number : Nat)
  | look (before? after? : Option Bool)
deriving Repr

namespace Regex

/-! ## Reading -/

/-- The decimal number at the start of a text. -/
def number? (t : Octets) : Option Nat × Octets :=
  (Octets.nat? (t.takeWhile Octets.isDigit), t.dropWhile Octets.isDigit)

/-- The bounds of a repetition, after its opening brace. -/
def bounds? (extended : Bool) (t : Octets) : Option (Nat × Option Nat × Octets) :=
  let closed (t : Octets) : Option Octets :=
    match extended, t with
    | true, '\x7d' :: rest => some rest
    | false, '\\' :: '\x7d' :: rest => some rest
    | _, _ => none
  match number? t with
  | (least, ',' :: rest) =>
    let (most, rest) := number? rest
    (closed rest).map fun rest => (least.getD 0, most, rest)
  | (some n, rest) => (closed rest).map fun rest => (n, some n, rest)
  | (none, _) => none

/-- The repetition at the start of a text: the bounds and what follows. -/
def repetition? (extended : Bool) (t : Octets) : Option (Nat × Option Nat × Octets) :=
  match extended, t with
  | _, '*' :: rest => some (0, none, rest)
  | true, '+' :: rest | false, '\\' :: '+' :: rest => some (1, none, rest)
  | true, '?' :: rest | false, '\\' :: '?' :: rest => some (0, some 1, rest)
  | true, '\x7b' :: rest | false, '\\' :: '\x7b' :: rest => bounds? extended rest
  | _, _ => none

/-- The repetitions that follow an expression. -/
def repeated (extended : Bool) : Nat → Regex → Octets → Regex × Octets
  | 0, a, t => (a, t)
  | fuel + 1, a, t =>
    match repetition? extended t with
    | some (least, most, rest) => repeated extended fuel (.times a least most) rest
    | none => (a, t)

/-- What a bar between two sides is followed by. -/
def afterBar? (extended : Bool) (t : Octets) : Option Octets :=
  match extended, t with
  | true, '|' :: rest | false, '\\' :: '|' :: rest => some rest
  | _, _ => none

/-- What an opening parenthesis is followed by. -/
def afterOpen? (extended : Bool) (t : Octets) : Option Octets :=
  match extended, t with
  | true, '(' :: rest | false, '\\' :: '(' :: rest => some rest
  | _, _ => none

/-- What a closing parenthesis is followed by. -/
def afterClose? (extended : Bool) (t : Octets) : Option Octets :=
  match extended, t with
  | true, ')' :: rest | false, '\\' :: ')' :: rest => some rest
  | _, _ => none

/-- The set that a letter after a backslash names. -/
def escapedSet (c : Char) : CharSet :=
  match c with
  | 'w' => ⟨false, CharSet.wordRanges⟩
  | 'W' => ⟨true, CharSet.wordRanges⟩
  | 's' => ⟨false, CharSet.classRanges "space".toList⟩
  | 'S' => ⟨true, CharSet.classRanges "space".toList⟩
  | 'n' => .single '\n'
  | 't' => .single '\t'
  | _ => .single c

/-- Whether a dollar sign before the text is an end. -/
def isStop (extended : Bool) (t : Octets) : Bool :=
  extended || t.isEmpty || (afterClose? extended t).isSome || (afterBar? extended t).isSome

/-- One byte, set or anchor of an expression, and what follows it; `first` when nothing of the same
sequence precedes it. -/
def atom? (extended first : Bool) (t : Octets) : Option (Regex × Octets) :=
  match t with
  | [] => none
  | '.' :: rest => some (.one .all, rest)
  | '[' :: rest => (CharSet.read? ['^'] rest).map fun (s, rest) => (.one s, rest)
  | '^' :: rest => some (if extended || first then .start else .one (.single '^'), rest)
  | '$' :: rest => some (if isStop extended rest then .stop else .one (.single '$'), rest)
  | '\\' :: c :: rest =>
    if '1' ≤ c && c ≤ '9' then some (.again (c.toNat - '0'.toNat), rest)
    else match c with
      | '<' => some (.look (some false) (some true), rest)
      | '>' => some (.look (some true) (some false), rest)
      | _ => some (.one (escapedSet c), rest)
  | '\\' :: [] => none
  | c :: rest => some (.one (.single c), rest)

/-- Reads an expression up to a closing parenthesis or to the end.  `sides` are the finished sides
of a choice, `sequence` what has been read of the present one. -/
def readSides (extended : Bool) : Nat → Nat → Octets → Option Regex → List Regex →
    Option (Regex × Octets × Nat)
  | 0, _, _, _, _ => none
  | fuel + 1, groups, t, sides, sequence =>
    let side := sequence.foldr Regex.both .empty
    let choice := match sides with
      | some a => Regex.either a side
      | none => side
    let next (a : Regex) (rest : Octets) (groups : Nat) :=
      let (a, rest) := repeated extended rest.length a rest
      readSides extended fuel groups rest sides (sequence ++ [a])
    match t with
    | [] => some (choice, [], groups)
    | _ =>
      if (afterClose? extended t).isSome then some (choice, t, groups)
      else match afterBar? extended t, afterOpen? extended t with
        | some rest, _ => readSides extended fuel groups rest (some choice) []
        | none, some rest =>
          match readSides extended fuel (groups + 1) rest none [] with
          | some (inner, rest, used) =>
            (afterClose? extended rest).bind fun rest => next (.group (groups + 1) inner) rest used
          | none => none
        | none, none =>
          let first := sequence.all fun a => match a with
            | .start => true
            | _ => false
          match t, first with
          | '*' :: rest, true => next (.one (.single '*')) rest groups
          | _, _ => (atom? extended sequence.isEmpty t).bind fun (a, rest) =>
            match a with
            | .start => readSides extended fuel groups rest sides (sequence ++ [.start])
            | a => next a rest groups

/-- Reads a whole expression. -/
def ofText? (extended : Bool) (t : Octets) : Option Regex :=
  match readSides extended (t.length + 1) 0 t none [] with
  | some (a, [], _) => some a
  | _ => none

/-- The expression with every letter of either case standing for both. -/
def foldCase : Regex → Regex
  | .one s => .one ⟨s.negated, s.ranges.flatMap fun (lo, hi) =>
      let shift (d : Int) (c : Char) := Char.ofNat ((c.toNat : Int) + d).toNat
      let meet (a b : Char) (d : Int) :=
        let lo := max lo.toNat a.toNat
        let hi := min hi.toNat b.toNat
        if lo ≤ hi then [(shift d (Char.ofNat lo), shift d (Char.ofNat hi))] else []
      (lo, hi) :: (meet 'a' 'z' (-32) ++ meet 'A' 'Z' 32)⟩
  | .both a b => .both a.foldCase b.foldCase
  | .either a b => .either a.foldCase b.foldCase
  | .times a least most => .times a.foldCase least most
  | .group n a => .group n a.foldCase
  | a => a

/-! ## Matching -/

/-- A point in a text: what is left of it, how many bytes precede it, and the ends of the groups
matched so far, the latest first. -/
structure Spot where
  rest : Octets
  offset : Nat
  groups : List (Nat × Nat × Nat)

/-- The point some bytes further on. -/
def Spot.advance (s : Spot) (n : Nat) : Spot := ⟨s.rest.drop n, s.offset + n, s.groups⟩

/-- Tries `k` after `n` bytes, after `n - 1`, … down to `least`. -/
def longestFirst (least : Nat) (k : Spot → Option Spot) (s : Spot) : Nat → Option Spot
  | 0 => if least = 0 then k s else none
  | n + 1 =>
    if n + 1 < least then none
    else match k (s.advance (n + 1)) with
      | some e => some e
      | none => longestFirst least k s n

/-- Repeats `step`, as often as possible first; every round but a required one takes a byte. -/
def iterate (step : (Spot → Option Spot) → Spot → Option Spot) (k : Spot → Option Spot) :
    Nat → Nat → Option Nat → Spot → Option Spot
  | 0, least, _, s => if least = 0 then k s else none
  | fuel + 1, least, most, s =>
    if most = some 0 then k s
    else
      let more := step (fun e =>
        if least = 0 && e.offset = s.offset then none
        else iterate step k fuel (least - 1) (most.map (· - 1)) e) s
      match more, least with
      | some e, _ => some e
      | none, 0 => k s
      | none, _ + 1 => none

/-- Whether a byte, if there is one, is part of a word. -/
def isWordByte (c? : Option Char) : Bool :=
  c?.any fun c => CharSet.wordRanges.any fun r => r.1 ≤ c && c ≤ r.2

/-- Whether the bytes before a point and after it are parts of words. -/
def wordsAround (whole : Octets) (s : Spot) : Bool × Bool :=
  (s.offset ≠ 0 && isWordByte (whole.drop (s.offset - 1)).head?, isWordByte s.rest.head?)

/-- Matches the expression in the text `whole` from a point on, then whatever `k` asks for. -/
def run (whole : Octets) : Regex → (Spot → Option Spot) → Spot → Option Spot
  | .empty, k, s => k s
  | .one set, k, s =>
    match s.rest with
    | c :: _ => if set.contains c then k (s.advance 1) else none
    | [] => none
  | .start, k, s => if s.offset = 0 then k s else none
  | .stop, k, s => if s.rest.isEmpty then k s else none
  | .both a b, k, s => run whole a (run whole b k) s
  | .either a b, k, s =>
    match run whole a k s with
    | some e => some e
    | none => run whole b k s
  | .times (.one set) least most, k, s =>
    let most := most.getD s.rest.length
    longestFirst least k s ((s.rest.take most).takeWhile set.contains).length
  | .times a least most, k, s =>
    iterate (run whole a) k (least + s.rest.length + 1) least most s
  | .group n a, k, s =>
    run whole a (fun e => k { e with groups := (n, s.offset, e.offset) :: e.groups }) s
  | .again n, k, s =>
    match s.groups.find? (·.1 = n) with
    | some (_, i, j) =>
      let t := (whole.drop i).take (j - i)
      if Text.startsWith t s.rest then k (s.advance t.length) else none
    | none => none
  | .look before? after?, k, s =>
    let (before, after) := wordsAround whole s
    if before?.all (· = before) && after?.all (· = after) then k s else none

/-- Whether the first match that is found may not be the longest: the expression holds a choice, or
a repetition of more than one byte. -/
def hasChoice : Regex → Bool
  | .either _ _ => true
  | .both a b => a.hasChoice || b.hasChoice
  | .group _ a => a.hasChoice
  | .times (.one _) _ _ => false
  | .times _ _ _ => true
  | _ => false

/-- A match: where it begins and ends, and the ends of its groups. -/
structure Match where
  start : Nat
  stop : Nat
  groups : List (Nat × Nat × Nat)
deriving Repr

/-- The match that starts at a point. -/
def matchAt? (a : Regex) (whole : Octets) (s : Spot) : Option Spot :=
  if a.hasChoice then
    (List.range (s.rest.length + 1)).reverse.findSome? fun n =>
      a.run whole (fun e => if e.offset = s.offset + n then some e else none) s
  else a.run whole some s

/-- The leftmost match at an offset or after it, where `rest` is what follows the offset. -/
def findFrom? (a : Regex) (whole : Octets) (offset : Nat) (rest : Octets) : Option Match :=
  let s : Spot := ⟨rest, offset, []⟩
  match a.matchAt? whole s, rest with
  | some e, _ => some ⟨offset, e.offset, e.groups⟩
  | none, _ :: rest => findFrom? a whole (offset + 1) rest
  | none, [] => none

/-- The leftmost match at the offset `first` or after it. -/
def find? (a : Regex) (whole : Octets) (first : Nat) : Option Match :=
  if whole.length < first then none else a.findFrom? whole first (whole.drop first)

/-- All matches that take something, from left to right; `fuel` bounds their number. -/
def findAll (a : Regex) (whole : Octets) : Nat → Nat → List Match
  | 0, _ => []
  | fuel + 1, first =>
    match a.find? whole first with
    | none => []
    | some m =>
      if m.start < m.stop then m :: findAll a whole fuel m.stop
      else findAll a whole fuel (m.stop + 1)

/-- Whether the expression matches in a text at an offset or after it, where `rest` is what follows
the offset. -/
def isMatchFrom (a : Regex) (whole : Octets) (offset : Nat) : Octets → Bool
  | [] => (a.run whole some ⟨[], offset, []⟩).isSome
  | c :: rest =>
    (a.run whole some ⟨c :: rest, offset, []⟩).isSome || isMatchFrom a whole (offset + 1) rest

/-- Whether the expression matches somewhere in a text. -/
def isMatch (a : Regex) (t : Octets) : Bool := a.isMatchFrom t 0 t

/-- What a group of a match took; group 0 is the whole match. -/
def Match.group (m : Match) (whole : Octets) (n : Nat) : Octets :=
  if n = 0 then (whole.drop m.start).take (m.stop - m.start)
  else match m.groups.find? (·.1 = n) with
    | some (_, i, j) => (whole.drop i).take (j - i)
    | none => []

end Regex
end Doctest
