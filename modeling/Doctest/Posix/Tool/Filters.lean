/-
# Programs that turn lines into lines

`cat`, `nl`, `head`, `tail`, `tac`, `rev`, `wc`, `cut` and `fold`, with the options that scripts
use.  A line is what ends in a line feed; the last one may lack it.
-/

import Doctest.Posix.Tool.Basic

namespace Doctest
namespace Tool

/-- The lines, each with a line feed. -/
def unlines (ls : List Octets) : Octets := ls.flatMap (· ++ ['\n'])

/-- A text with blanks before it, at least as wide as asked for. -/
def rightAligned (width : Nat) (t : Octets) : Octets :=
  List.replicate (width - t.length) ' ' ++ t

/-- A line without its line feed, and its line feed if it has one. -/
def splitEnd (l : Octets) : Octets × Octets :=
  if l.getLast? = some '\n' then (l.dropLast, ['\n']) else (l, [])

/-! ## Numbering and showing lines -/

/-- A byte as it is shown when it is not to be printed as it is. -/
def visible (c : Char) : Octets :=
  let low (n : Nat) : Octets :=
    if n < 32 then ['^', Octets.byte (n + 64)] else if n = 127 then ['^', '?'] else [Octets.byte n]
  if c.toNat < 128 then low c.toNat else ['M', '-'] ++ low (c.toNat - 128)

/-- The lines of a text without those that are empty after an empty one. -/
def squeezed (ls : List Octets) : List Octets :=
  (ls.foldl (fun ((out, empty) : List Octets × Bool) l =>
    if l = ['\n'] then (if empty then out else l :: out, true) else (l :: out, false))
    ([], false)).1.reverse

/-- Prints the files one after the other, with what the options add to the lines. -/
def catWithOptions (c : Call) : Reply :=
  c.withArguments "AbeEnstTuv" "" 1 fun a => c.filterAll a.rest fun t =>
    let shows := a.hasAny "Aevt"
    let tabs := a.hasAny "ATt"
    let ends := a.hasAny "AEe"
    let body (l : Octets) : Octets :=
      let (b, feed) := splitEnd l
      let (b, return_) : Octets × Octets :=
        if ends && !shows && feed ≠ [] && b.getLast? = some '\r' then (b.dropLast, "^M".toList)
        else (b, [])
      let b := b.flatMap fun ch =>
        if ch = '\t' then (if tabs then "^I".toList else [ch])
        else if shows then visible ch else [ch]
      b ++ return_ ++ (if ends && feed ≠ [] then ['$'] else []) ++ feed
    let ls := Octets.rawLines t
    let ls := if a.has 's' then squeezed ls else ls
    let numbers := a.hasAny "nb"
    let rows := ls.foldl (fun ((out, n) : List Octets × Nat) l =>
      if !numbers || (a.has 'b' && l = ['\n']) then (body l :: out, n)
      else ((rightAligned 6 (Text.ofNat n) ++ '\t' :: body l) :: out, n + 1)) ([], 1)
    rows.1.reverse.flatten

/-- Prints the lines with numbers: those that are not empty, or all of them with `-ba`. -/
def nl (c : Call) : Reply :=
  c.withArguments "" "bws" 1 fun a =>
    match a.badNumber? [('w', "line number field width")] with
    | some e => c.refuse e 1
    | none => c.filterAll a.rest fun t =>
      let width := ((a.value? 'w').bind Octets.nat?).getD 6
      let separator := (a.value? 's').getD ['\t']
      let rows := (Octets.lines t).foldl (fun ((out, n) : List Octets × Nat) l =>
        if l = [] && a.value? 'b' ≠ some ['a'] then
          ((List.replicate (width + separator.length) ' ' ++ ['\n']) :: out, n)
        else ((rightAligned width (Text.ofNat n) ++ separator ++ l ++ ['\n']) :: out, n + 1))
        ([], 1)
      rows.1.reverse.flatten

/-! ## Parts of a text -/

/-- How much of a text is asked for: so many lines or bytes, all but the last or first ones, or
from some line or byte on. -/
structure Extent where
  ofBytes : Bool
  sign : Option Char
  count : Nat

namespace Extent

/-- A number, perhaps of kilobytes. -/
def amount? (t : Octets) : Option Nat :=
  if t.getLast? = some 'k' || t.getLast? = some 'K' then (Octets.nat? t.dropLast).map (1024 * ·)
  else Octets.nat? t

/-- Reads an amount, with its sign if it has one. -/
def ofText? (ofBytes : Bool) : Octets → Option Extent
  | '-' :: ds => (amount? ds).map fun n => ⟨ofBytes, some '-', n⟩
  | '+' :: ds => (amount? ds).map fun n => ⟨ofBytes, some '+', n⟩
  | ds => (amount? ds).map fun n => ⟨ofBytes, none, n⟩

/-- The start of a text. -/
def head (e : Extent) (t : Octets) : Octets :=
  if e.ofBytes then t.take (if e.sign = some '-' then t.length - e.count else e.count)
  else
    let ls := Octets.rawLines t
    (ls.take (if e.sign = some '-' then ls.length - e.count else e.count)).flatten

/-- The end of a text. -/
def tail (e : Extent) (t : Octets) : Octets :=
  let from_ (length : Nat) : Nat :=
    if e.sign = some '+' then e.count - 1 else length - e.count
  if e.ofBytes then t.drop (from_ t.length)
  else
    let ls := Octets.rawLines t
    (ls.drop (from_ ls.length)).flatten

/-- The options with a number alone in long form. -/
def modern : List Octets → List Octets
  | ('-' :: d :: ds) :: rest =>
    let digits := (d :: ds).takeWhile Octets.isDigit
    let letters := (d :: ds).drop digits.length
    if digits = [] then ('-' :: d :: ds) :: rest
    else if letters = ['c'] then ['-', 'c'] :: digits :: rest
    else ['-', 'n'] :: digits :: rest
  | args => args

/-- The extent that the options ask for, ten lines when they ask for none; whether names are
printed; and the files.  A complaint comes with whether help is offered after it. -/
def ofArguments (args : List Octets) :
    Except (Octets × Bool) (Extent × Option Bool × List Octets) :=
  ((Arguments.read "qv" "nc" (modern args)).mapError fun e => (e, true)).bind fun a =>
    let titled? := (a.letters.filter fun l => l = 'q' || l = 'v').getLast?.map (· == 'v')
    match a.values.getLast? with
    | none => .ok (⟨false, none, 10⟩, titled?, a.rest)
    | some (letter, t) =>
      match ofText? (letter = 'c') t with
      | some e => .ok (e, titled?, a.rest)
      | none => .error ("invalid number of ".toList ++
          (if letter = 'c' then "bytes" else "lines").toList ++ ": ".toList ++ Quoting.text t,
            false)

/-- The line over the contents of a file. -/
def title (first : Bool) (path : Octets) : Octets :=
  (if first then [] else ['\n']) ++ "==> ".toList ++
    (if path = ['-'] then "standard input".toList else path) ++ " <==\n".toList

end Extent

/-- The digit of a number that is given as an option, which may only have one file after it. -/
def misplacedDigit? : List Octets → Option Char
  | ('-' :: d :: _) :: _ :: _ :: _ => if Octets.isDigit d then some d else none
  | _ => none

/-- Prints a part of each file, under its name when there are several. -/
def part (cut : Extent → Octets → Octets) (c : Call) : Reply :=
  match misplacedDigit? c.arguments, Extent.ofArguments c.arguments with
  | some d, _ => c.refuse ("option used in invalid context -- ".toList ++ [d]) 1
  | none, .error (e, offersHelp) => if offersHelp then c.usage e 1 else c.refuse e 1
  | none, .ok (e, titled?, paths) =>
    let titled := titled?.getD (1 < paths.length)
    c.filter paths fun found => found.zipIdx.flatMap fun ((p, t), i) =>
      (if titled then Extent.title (i = 0) p else []) ++ cut e t

/-- Prints the lines in reverse. -/
def tac (c : Call) : Reply :=
  c.withArguments "" "" 1 fun a => c.filter a.rest fun found => found.flatMap fun (_, t) =>
    (Octets.rawLines t).reverse.flatten

/-- Prints the bytes of each line in reverse. -/
def rev (c : Call) : Reply :=
  c.withArguments "" "" 1 fun a => c.filterLines a.rest fun t =>
    (Octets.rawLines t).flatMap fun l =>
      let (body, feed) := splitEnd l
      body.reverse ++ feed

/-! ## Counting -/

/-- Whether a byte separates words. -/
def isSpace (c : Char) : Bool := c = ' ' || (9 ≤ c.toNat && c.toNat ≤ 13)

/-- Whether a byte is a letter, a digit, a mark or a blank. -/
def isPrintable (c : Char) : Bool := 32 ≤ c.toNat && c.toNat < 127

/-- Number of words; a word has a byte that can be printed. -/
def wordCount (t : Octets) : Nat :=
  ((t.foldl (fun (n, inside) ch =>
    if isSpace ch then (n, false)
    else if inside || !isPrintable ch then (n, inside) else (n + 1, true)) (0, false)) :
    Nat × Bool).1

/-- Counts lines, words and bytes. -/
def wc (c : Call) : Reply :=
  c.withArguments "lwcm" "" 1 fun a =>
    let letters := if a.letters = [] then ['l', 'w', 'c'] else a.letters
    let counts (t : Octets) : List Nat := "lwmc".toList.filterMap fun letter =>
      if !letters.contains letter then none
      else match letter with
        | 'l' => some (t.count '\n')
        | 'w' => some (wordCount t)
        | _ => some t.length
    let isDirectory (p : Octets) : Bool := match c.source p with
      | .error .isDirectory => true
      | _ => false
    c.filter a.rest fun found =>
      let paths := if a.rest = [] then [['-']] else a.rest
      let rows := paths.filterMap fun p =>
        if isDirectory p then some (p, counts []) else (found.lookup p).map fun t => (p, counts t)
      let total := (List.range (counts []).length).map fun i =>
        rows.foldl (fun n r => n + r.2[i]?.getD 0) 0
      let rows := if 1 < a.rest.length then rows ++ [("total".toList, total)] else rows
      let sizes := (Text.ofNat (found.foldl (fun n f => n + f.2.length) 0)).length
      let odd (p : Octets) : Bool := match c.files.find? c.cwd p with
        | some (.file ..) | some (.program _) => false
        | some _ => true
        | none => false
      let piped := (Call.readsInput a.rest && !c.inputIsFile) || a.rest.any odd
      let single : Bool := a.rest.length ≤ 1 && (counts []).length = 1
      let width := if single then 1 else if piped then max 7 sizes else sizes
      rows.flatMap fun (p, ns) =>
        Text.join [' '] (ns.map fun n => rightAligned width (Text.ofNat n)) ++
          (if a.rest = [] then [] else ' ' :: p) ++ ['\n']

/-! ## Columns -/

/-- A range of positions, from 1 on; without an end it goes on for ever. -/
abbrev Range := Nat × Option Nat

/-- The ranges of a list such as `1,3-5,7-`; `what` names the positions in complaints. -/
def ranges (what : Octets) (t : Octets) : Except Octets (List Range) :=
  (Octets.split ',' t).mapM fun piece =>
    let invalid : Except Octets Range :=
      if what = "field".toList then .error ("invalid field value '".toList ++ piece ++ ['\''])
      else .error ("invalid byte or character position '".toList ++ piece ++ ['\''])
    let range (lo : Nat) (hi? : Option Nat) : Except Octets Range :=
      if lo = 0 then
        .error (if what = "field".toList then "fields are numbered from 1".toList
          else "byte/character positions are numbered from 1".toList)
      else if hi?.any (· < lo) then .error "invalid decreasing range".toList
      else .ok (lo, hi?)
    match Octets.split '-' piece with
    | [n] => match Octets.nat? n with
      | some n => range n (some n)
      | none => invalid
    | [[], []] => .error "invalid range with no endpoint: -".toList
    | [a, b] =>
      match (if a = [] then some 1 else Octets.nat? a),
          (if b = [] then some none else (Octets.nat? b).map some) with
      | some lo, some hi? => range lo hi?
      | _, _ => invalid
    | _ => invalid

/-- Whether a position is in one of the ranges. -/
def inRanges (rs : List Range) (n : Nat) : Bool := rs.any fun (lo, hi?) => lo ≤ n && hi?.all (n ≤ ·)

/-- Prints selected fields or bytes of each line. -/
def cut (c : Call) : Reply :=
  c.withArguments "sn" "dfbc" 1 fun a =>
    let lines (f : Octets → Option Octets) (t : Octets) : Octets :=
      unlines ((Octets.lines t).filterMap f)
    let lists := a.values.filter fun v => v.1 = 'f' || v.1 = 'b' || v.1 = 'c'
    match lists, a.value? 'd' with
    | [], _ => c.usage "you must specify a list of bytes, characters, or fields".toList 1
    | _ :: _ :: _, _ => c.usage "only one list may be specified".toList 1
    | [('f', list)], d? =>
      match ranges "field".toList list, d?.getD ['\t'] with
      | .error e, _ => c.usage e 1
      | .ok _, _ :: _ :: _ => c.usage "the delimiter must be a single character".toList 1
      | .ok rs, d =>
        let delimiter := d.headD '\x00'
        c.filterLines a.rest <| lines fun l =>
          if !l.any (· = delimiter) then (if a.has 's' then none else some l)
          else
            let fields := ((Octets.split delimiter l).zipIdx 1).filter fun x => inRanges rs x.2
            some (Text.join [delimiter] (fields.map Prod.fst))
    | [(_, list)], d? =>
      match ranges "byte".toList list with
      | .error e => c.usage e 1
      | .ok rs =>
        if d?.isSome then
          c.usage "an input delimiter may be specified only when operating on fields".toList 1
        else c.filterLines a.rest <| lines fun l =>
          some (((l.zipIdx 1).filter fun x => inRanges rs x.2).map Prod.fst)

/-- The column after one more byte. -/
def nextColumn (countsBytes : Bool) (column : Nat) (c : Char) : Nat :=
  if countsBytes then column + 1
  else if c = '\x08' then column - 1
  else if c = '\r' then 0
  else if c = '\t' then (column / 8 + 1) * 8
  else column + 1

/-- The lines into which a line is broken: those that are complete, the latest first, and the one
that is not, its latest byte first. -/
def foldLine (width : Nat) (atBlanks countsBytes : Bool) (l : Octets) : List Octets × Octets :=
  let columnOf (t : Octets) : Nat := t.foldl (nextColumn countsBytes) 0
  let (done, now, _) : List Octets × Octets × Nat := l.foldl (fun (done, now, column) ch =>
    let place (done : List Octets) (now : Octets) (column : Nat) : List Octets × Octets × Nat :=
      let next := nextColumn countsBytes column ch
      if width < next && now ≠ [] then
        (now :: done, [ch], nextColumn countsBytes 0 ch)
      else (done, ch :: now, next)
    let next := nextColumn countsBytes column ch
    let blank (ch : Char) : Bool := ch = ' ' || ch = '\t'
    if atBlanks && width < next && now.any blank then
      let rest := now.takeWhile (!blank ·)
      place (now.drop rest.length :: done) rest (columnOf rest.reverse)
    else place done now column) ([], [], 0)
  (done, now)

/-- Breaks lines that are too long. -/
def fold (c : Call) : Reply :=
  let args := c.arguments.map fun w => match w with
    | '-' :: d :: ds => if (d :: ds).all Octets.isDigit then '-' :: 'w' :: d :: ds else w
    | w => w
  match Arguments.read "bs" "w" args with
  | .error e => c.usage e 1
  | .ok a =>
    match Octets.nat? ((a.value? 'w').getD "80".toList) with
    | none => c.refuse ("invalid number of columns: '".toList ++ (a.value? 'w').getD [] ++ ['\'']) 1
    | some width => c.filterLines a.rest fun t =>
      (Octets.rawLines t).flatMap fun l =>
        let (body, feed) := splitEnd l
        let (done, now) := foldLine width (a.has 's') (a.has 'b') body
        (done.reverse.flatMap fun p => p.reverse ++ ['\n']) ++ now.reverse ++ feed

end Tool
end Doctest
