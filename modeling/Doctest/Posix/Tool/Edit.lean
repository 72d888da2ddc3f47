/-
# Editing streams

`sed` runs a script on each line of its input, which is printed at the end unless `-n` is given.

| instruction | |
| --- | --- |
| `s/re/text/flags` | replace; flags `g`, `p`, `i` and a number |
| `y/abc/xyz/` | map bytes |
| `p` `d` `q` `=` | print, delete, quit, line number |
| `{` … `}` | a block |

Before an instruction stand no, one or two addresses, each a line number, `$` or `/re/`, and then
perhaps `!`.
-/

import Doctest.Posix.Tool.Basic
import Doctest.Posix.Regex

namespace Doctest
namespace Sed

/-- Which lines an instruction is for. -/
inductive Address where
  | line (n : Nat)
  | last
  | matching (r : Regex)

/-- A piece of what replaces a match: bytes, or a group. -/
inductive Piece where
  | bytes (t : Octets)
  | group (n : Nat)

/-- A replacement of the matches from the one with the number `first` on, or of that one only. -/
structure Substitution where
  expression : Regex
  pieces : List Piece
  first : Nat
  isGlobal : Bool
  prints : Bool

/-- What an instruction does. -/
inductive Action where
  | substitute (s : Substitution)
  | map (pairs : List (Char × Char))
  | print
  | delete
  | quit
  | number
  | opening
  | closing

/-- An instruction with its addresses; a negated one is for all other lines. -/
structure Instruction where
  first? : Option Address
  second? : Option Address
  negated : Bool
  action : Action

/-! ## Reading -/

/-- The text up to a delimiter and what follows it.  A backslash takes the delimiter into the text
without the backslash, and stays before any other byte; in brackets, where these count, the
delimiter is a byte like any other. -/
def upTo? (delimiter : Char) (brackets inside : Bool) : Octets → Option (Octets × Octets)
  | [] => none
  | '\\' :: c :: t =>
    (upTo? delimiter brackets inside t).map fun (a, b) =>
      (if c = delimiter then c :: a else '\\' :: c :: a, b)
  | c :: t =>
    if c = delimiter && !inside then some ([], t)
    else
      let inside := if inside then c ≠ ']' else brackets && c = '['
      (upTo? delimiter brackets inside t).map fun (a, b) => (c :: a, b)

/-- The pieces of what replaces a match. -/
def pieces : Octets → List Piece
  | [] => []
  | '\\' :: c :: t =>
    if Octets.isDigit c then .group (c.toNat - '0'.toNat) :: pieces t
    else .bytes [if c = 'n' then '\n' else c] :: pieces t
  | '&' :: t => .group 0 :: pieces t
  | c :: t => .bytes [c] :: pieces t

/-- Reads an address at the start of a text, if there is one. -/
def address? (extended : Bool) : Octets → Option (Option Address × Octets)
  | '$' :: t => some (some .last, t)
  | '/' :: t => do
    let (e, t) ← upTo? '/' true false t
    return (some (.matching (← Regex.ofText? extended e)), t)
  | t => match Regex.number? t with
    | (some n, t) => some (some (.line n), t)
    | (none, _) => some (none, t)

/-- Reads what an instruction does, and what follows it. -/
def action? (extended : Bool) : Octets → Option (Action × Octets)
  | 's' :: delimiter :: t => do
    let (e, t) ← upTo? delimiter true false t
    let (replacement, t) ← upTo? delimiter false false t
    let flags := t.takeWhile fun c => Octets.isDigit c || "gpiI".toList.contains c
    let r ← Regex.ofText? extended e
    return (.substitute {
      expression := if flags.any fun c => c = 'i' || c = 'I' then r.foldCase else r
      pieces := pieces replacement
      first := (Octets.nat? (flags.filter Octets.isDigit)).getD 1
      isGlobal := flags.contains 'g'
      prints := flags.contains 'p' }, t.drop flags.length)
  | 'y' :: delimiter :: t => do
    let (a, t) ← upTo? delimiter false false t
    let (b, t) ← upTo? delimiter false false t
    if a.length = b.length then return (.map (a.zip b), t) else none
  | 'p' :: t => some (.print, t)
  | 'd' :: t => some (.delete, t)
  | 'q' :: t => some (.quit, t)
  | '=' :: t => some (.number, t)
  | '\x7b' :: t => some (.opening, ';' :: t)
  | '\x7d' :: t => some (.closing, t)
  | _ => none

/-- Reads the instructions of a script, which semicolons and line feeds separate, and of which the
opening of a block is one and its end another; `fuel` bounds their number. -/
def ofText? (extended : Bool) : Nat → Octets → Option (List Instruction)
  | 0, _ => none
  | fuel + 1, t =>
    let isGap (c : Char) : Bool := c = ' ' || c = '\t'
    match t.dropWhile fun c => isGap c || c = ';' || c = '\n' with
    | [] => some []
    | t => do
      let (first?, t) ← address? extended t
      let (second?, t) ← match first?, t with
        | some _, ',' :: t => address? extended t
        | _, t => some (none, t)
      let t := t.dropWhile isGap
      let negated := t.head? = some '!'
      let (action, t) ← action? extended ((if negated then t.tail else t).dropWhile isGap)
      match t.dropWhile isGap with
      | [] => return [⟨first?, second?, negated, action⟩]
      | c :: t =>
        if c = ';' || c = '\n' || c = '\x7d' then
          let rest := if c = '\x7d' then c :: t else t
          return ⟨first?, second?, negated, action⟩ :: (← ofText? extended fuel rest)
        else none

/-! ## Running -/

/-- The state of a run: the present line as it has become, what was printed, the latest first, and
the instructions, by their numbers, whose ranges of lines are open. -/
structure State where
  space : Octets
  output : List Octets
  open_ : List Nat

/-- Whether an instruction is for the present line. -/
def State.selects (s : State) (line : Nat) (isLast : Bool) (index : Nat) (i : Instruction) :
    Bool × State :=
  let isAt : Address → Bool
    | .line n => line = n
    | .last => isLast
    | .matching r => r.isMatch s.space
  let reaches : Address → Bool
    | .line n => n ≤ line
    | a => isAt a
  let close : State := { s with open_ := s.open_.filter (· ≠ index) }
  let (hit, s) := match i.first?, i.second? with
    | none, _ => (true, s)
    | some a, none => (isAt a, s)
    | some a, some b =>
      if s.open_.contains index then (true, if reaches b then close else s)
      else if isAt a then
        let ends : Bool := match b with
          | .line n => n ≤ line
          | _ => false
        (true, if ends then s else { s with open_ := index :: s.open_ })
      else (false, s)
  (hit != i.negated, s)

/-- Replaces matches from an offset on.  `seen` counts the matches before it, and `previous?` is
where the last of them ended: an empty match right there does not count. -/
def Substitution.apply (u : Substitution) (whole : Octets) :
    Nat → Nat → Nat → Option Nat → Octets × Bool
  | 0, start, _, _ => (whole.drop start, false)
  | fuel + 1, start, seen, previous? =>
    match u.expression.find? whole start with
    | none => (whole.drop start, false)
    | some m =>
      let before := (whole.drop start).take (m.start - start)
      let counts := !(m.start = m.stop && previous? = some m.start)
      let seen := if counts then seen + 1 else seen
      let replaces := counts && u.first ≤ seen && (u.isGlobal || u.first = seen)
      let new := if replaces then u.pieces.flatMap fun p => match p with
          | .bytes t => t
          | .group n => m.group whole n
        else m.group whole 0
      let step := if m.start = m.stop then 1 else 0
      let (after, hit) := if whole.length < m.stop + step then ([], false)
        else u.apply whole fuel (m.stop + step) seen (some m.stop)
      (before ++ new ++ (whole.drop m.stop).take step ++ after, replaces || hit)

/-- The number of instructions up to the end of the block that has been opened `depth` times. -/
def blockLength : Nat → List (Instruction × Nat) → Nat
  | _, [] => 0
  | depth, (i, _) :: is =>
    match i.action, depth with
    | .opening, d => blockLength (d + 1) is + 1
    | .closing, 0 => 1
    | .closing, d + 1 => blockLength d is + 1
    | _, d => blockLength d is + 1

/-- Goes through the instructions but the first `skips`; tells whether the line is printed at the
end, and whether the script goes on with the next one. -/
def pass (line : Nat) (isLast : Bool) :
    Nat → List (Instruction × Nat) → State → State × Bool × Bool
  | _, [], s => (s, true, true)
  | skips + 1, _ :: is, s => pass line isLast skips is s
  | 0, (i, index) :: is, s =>
    let (hit, s) := s.selects line isLast index i
    let print (s : State) (t : Octets) : State := { s with output := (t ++ ['\n']) :: s.output }
    match i.action, hit with
    | .opening, false => pass line isLast (blockLength 0 is) is s
    | .opening, true | .closing, _ | _, false => pass line isLast 0 is s
    | .substitute u, true =>
      let (t, hit) := u.apply s.space (s.space.length + 2) 0 0 none
      let s := { s with space := t }
      pass line isLast 0 is (if hit && u.prints then print s t else s)
    | .map pairs, true =>
      pass line isLast 0 is { s with space := s.space.map fun c => (pairs.lookup c).getD c }
    | .print, true => pass line isLast 0 is (print s s.space)
    | .number, true => pass line isLast 0 is (print s (Text.ofNat line))
    | .delete, true => (s, false, true)
    | .quit, true => (s, true, false)

/-- Runs a script on lines; tells what is printed, and whether the script has quit. -/
def run (script : List Instruction) (quiet hasLast : Bool) (lines : List Octets) : Octets × Bool :=
  go lines 1 ⟨[], [], []⟩
where
  /-- Runs the script from the line of some number on. -/
  go : List Octets → Nat → State → Octets × Bool
    | [], _, s => (s.output.reverse.flatten, false)
    | l :: ls, line, s =>
      let (s, shown, goesOn) := pass line (hasLast && ls = []) 0 script.zipIdx { s with space := l }
      let s := if shown && !quiet then { s with output := (s.space ++ ['\n']) :: s.output } else s
      if goesOn then go ls (line + 1) s else (s.output.reverse.flatten, true)

end Sed

namespace Tool

/-- Edits streams by a script. -/
def sed (c : Call) : Reply :=
  c.withArguments "nEr" "e" 1 fun a =>
    let given := a.valuesOf 'e'
    let (scripts, paths) := if given = [] then (a.rest.take 1, a.rest.drop 1) else (given, a.rest)
    let script := Text.join ['\n'] scripts
    match scripts, Sed.ofText? (a.hasAny "Er") (script.length + 1) script with
    | [], _ => c.usage "missing script".toList 1
    | _, none => c.refuse ("invalid script ".toList ++ Quoting.text script) 1
    | _, some instructions =>
      let (found, complaints) := c.sources paths
      let text := found.flatMap Prod.snd
      -- While the input may go on, its last line so far may not be the last one.
      let partial_ := Call.readsInput paths && !c.inputEnds
      let lines := if partial_ then (Octets.lines text).dropLast else Octets.lines text
      let (output, quits) := Sed.run instructions (a.has 'n') (!partial_) lines
      let bare := quits || text = [] || text.getLast? = some '\n' || output = []
      ⟨if bare then output else output.dropLast, complaints, if complaints = [] then 0 else 2,
        c.files, if partial_ && !quits then .more else .nothing⟩

end Tool
end Doctest
