/-
# Escapes and formats

| escape | byte |
| --- | --- |
| `\a` `\b` `\t` `\n` `\v` `\f` `\r` | 7 to 13 |
| `\e` | 27 |
| `\\` | the backslash |
| `\` and up to three octal digits | the byte of that number |
| `\x` and up to two hexadecimal digits | the byte of that number, for programs only |
| any other | a backslash, and what follows it |

In a text that is printed, not in a format, `\0` may stand before the octal digits and `\c` ends
the whole output.  A format is used again while there are arguments; a missing argument is empty
or zero.
-/

import Doctest.Posix.Number

namespace Doctest
namespace Format

/-- Who prints: the shell itself, or a program, which knows more escapes. -/
inductive Dialect where
  | shell
  | program
deriving DecidableEq, Repr

/-- The byte of a one-letter escape. -/
def letter? : Char → Option Char
  | 'a' => some '\x07'
  | 'b' => some '\x08'
  | 'e' => some '\x1b'
  | 't' => some '\t'
  | 'n' => some '\n'
  | 'v' => some '\x0b'
  | 'f' => some '\x0c'
  | 'r' => some '\r'
  | '\\' => some '\\'
  | _ => none

/-- The octal digits at the start of a text, at most three. -/
def octal (t : Octets) : Octets := (t.take 3).takeWhile Octets.isOctal

/-- The hexadecimal digits after an `x`, at most two, where these make an escape. -/
def hexDigits (d : Dialect) (c : Char) (t : Octets) : Octets :=
  if d = .program && c = 'x' then (t.take 2).takeWhile fun c => (Octets.digitValue? c).isSome
  else []

/-- What an escape stands for, and what follows it; `t` follows the backslash. -/
def escape (d : Dialect) (t : Octets) : Octets × Octets :=
  match t with
  | [] => (['\\'], [])
  | c :: rest =>
    match letter? c, octal t, hexDigits d c rest with
    | some b, _, _ => ([b], rest)
    | none, [], [] => (['\\', c], rest)
    | none, [], hs => ([Octets.byte (Octets.digitsValue 16 hs)], rest.drop hs.length)
    | none, ds, _ => ([Octets.byte (Octets.digitsValue 8 ds)], t.drop ds.length)

theorem length_escape_le (d : Dialect) (t : Octets) : (escape d t).2.length ≤ t.length := by
  unfold escape
  split
  · simp
  · split <;> simp only [List.length_cons, List.length_drop] <;> omega

/-- The same where a zero may stand before the octal digits. -/
def escapeZero (d : Dialect) (t : Octets) : Octets × Octets :=
  match t with
  | '0' :: c :: rest => if Octets.isOctal c then escape d (c :: rest) else escape d t
  | _ => escape d t

theorem length_escapeZero_le (d : Dialect) (t : Octets) :
    (escapeZero d t).2.length ≤ t.length := by
  unfold escapeZero
  split
  · rename_i c rest
    split
    · exact Nat.le_succ_of_le (length_escape_le d (c :: rest))
    · exact length_escape_le d _
  · exact length_escape_le d _

/-- The bytes of a text with escapes, and whether `\c` ended it. -/
def unescape (d : Dialect) (t : Octets) : Octets × Bool :=
  match t with
  | [] => ([], false)
  | '\\' :: rest =>
    if rest.head? = some 'c' then ([], true)
    else
      have := length_escapeZero_le d rest
      let (more, stops) := unescape d (escapeZero d rest).2
      ((escapeZero d rest).1 ++ more, stops)
  | c :: rest =>
    let (more, stops) := unescape d rest
    (c :: more, stops)
termination_by t.length
decreasing_by all_goals simp only [List.length_cons]; omega

/-- How a value is set: its flags, its width, and its precision. -/
structure Setting where
  left : Bool
  zeros : Bool
  plus : Bool
  space : Bool
  alternate : Bool
  width : Nat
  precision? : Option Nat

/-- What is wrong with a format or an argument. -/
inductive Flaw where
  | notNumber (argument : Octets)
  | partNumber (argument : Octets)
  | outOfRange (argument : Octets)
  | noLetter
  | badLetter (directive : Octets)
deriving DecidableEq, Repr

/-- Whether the format is fine and the argument is not. -/
def Flaw.isNumeric : Flaw → Bool
  | .notNumber _ | .partNumber _ | .outOfRange _ => true
  | .noLetter | .badLetter _ => false

/-- The message on a flaw, in the words of the shell. -/
def Flaw.message : Flaw → Octets
  | .notNumber a => a ++ ": expected numeric value".toList
  | .partNumber a => a ++ ": not completely converted".toList
  | .outOfRange a => a ++ ": Numerical result out of range".toList
  | .noLetter => "missing format character".toList
  | .badLetter d => d ++ ": invalid directive".toList

/-- The message on a flaw, in the words of a program. -/
def Flaw.programMessage : Flaw → Octets
  | .notNumber a => ['\''] ++ a ++ "': expected a numeric value".toList
  | .partNumber a => ['\''] ++ a ++ "': value not completely converted".toList
  | .outOfRange a => ['\''] ++ a ++ "': Numerical result out of range".toList
  | .noLetter => "%: invalid conversion specification".toList
  | .badLetter d => d ++ ": invalid conversion specification".toList

/-- The output of a format, what is left of the arguments, and what went wrong. -/
structure Printed where
  output : Octets
  arguments : List Octets
  stops : Bool
  flaws : List Flaw

/-- A text at least as wide as asked for. -/
def pad (s : Setting) (t : Octets) : Octets :=
  let fill := List.replicate (s.width - t.length) ' '
  if s.left then t ++ fill else fill ++ t

/-- The digits of a number in some base. -/
def digits (base : Nat) (upper : Bool) (n : Nat) : Octets :=
  let ds := Nat.toDigits base n
  if upper then ds.map Char.toUpper else ds

/-- A number as it is set. -/
def setNumber (s : Setting) (sign digits : Octets) : Octets :=
  let digits := List.replicate (s.precision?.getD 1 - digits.length) '0' ++ digits
  if s.zeros && !s.left && s.precision?.isNone then
    sign ++ List.replicate (s.width - sign.length - digits.length) '0' ++ digits
  else pad s (sign ++ digits)

/-- The number at the start of an argument, and what follows it.  `0x` and `0` stand for the bases
16 and 8, a quotation mark for the number of the byte after it; `none` when there is no number. -/
def number? (t : Octets) : Option (Int × Octets) :=
  let t := t.dropWhile fun c => c = ' ' || ('\t' ≤ c && c ≤ '\r')
  match t with
  | '"' :: c :: _ | '\'' :: c :: _ => some (c.toNat, [])
  | _ =>
    let (sign, t) : Int × Octets := match t with
      | '-' :: t => (-1, t)
      | '+' :: t => (1, t)
      | t => (1, t)
    let plain : Option (Int × Octets) := match t with
      | '0' :: ds =>
        let os := ds.takeWhile Octets.isOctal
        some (sign * Octets.digitsValue 8 os, ds.drop os.length)
      | ds =>
        let ns := ds.takeWhile Octets.isDigit
        if ns = [] then none else some (sign * Octets.digitsValue 10 ns, ds.drop ns.length)
    match t with
    | '0' :: x :: ds =>
      let hs := ds.takeWhile fun c => (Octets.digitValue? c).isSome
      if (x = 'x' || x = 'X') && hs ≠ [] then
        some (sign * Octets.digitsValue 16 hs, ds.drop hs.length)
      else plain
    | _ => plain

/-- The number that an argument writes, and what is wrong with the argument.  Numbers beyond the
bounds are brought back to these. -/
def number (lo hi : Int) (t : Octets) : Int × List Flaw :=
  if t = [] then (0, [])
  else match number? t with
    | none => (0, [.notNumber t])
    | some (n, rest) =>
      let bad :=
        if n < lo || hi < n then [.outOfRange t] else if rest = [] then [] else [.partNumber t]
      (max lo (min hi n), bad)

/-- The least and the greatest number of 64 bits with a sign, and the greatest without. -/
def least : Int := -9223372036854775808
@[inherit_doc least] def greatest : Int := 9223372036854775807
@[inherit_doc least] def greatestUnsigned : Int := 18446744073709551615

/-- The number with a fraction that an argument writes, and what is wrong with the argument. -/
def realNumber (t : Octets) : Float × List Flaw :=
  match t with
  | [] => (0, [])
  | '"' :: c :: _ | '\'' :: c :: _ => (Float.ofNat c.toNat, [])
  | _ =>
    match Number.read? t with
    | none => (0, [.notNumber t])
    | some (x, rest) => (x, if rest = [] then [] else [.partNumber t])

/-- The flags at the start of a conversion. -/
def flags : Octets → Setting → Setting × Octets
  | '-' :: t, s => flags t { s with left := true }
  | '0' :: t, s => flags t { s with zeros := true }
  | '+' :: t, s => flags t { s with plus := true }
  | ' ' :: t, s => flags t { s with space := true }
  | '#' :: t, s => flags t { s with alternate := true }
  | t, s => (s, t)

/-- A number in a conversion: digits, or a star for the next argument. -/
def amount (t : Octets) (arguments : List Octets) : Option Int × Octets × List Octets :=
  match t with
  | '*' :: t => (some (number least greatest (arguments.headD [])).1, t, arguments.tail)
  | t =>
    let ds := t.takeWhile Octets.isDigit
    (if ds = [] then none else some (Octets.digitsValue 10 ds), t.drop ds.length, arguments)

/-- One argument as it is printed, whether it ends the output, and what is wrong with it. -/
structure Converted where
  output : Octets
  stops : Bool
  flaws : List Flaw

/-- Sets one argument as its letter asks for; `none` for no such letter. -/
def convert? (d : Dialect) (s : Setting) (kind : Char) (argument : Octets) : Option Converted :=
  let sign (negative : Bool) : Octets :=
    if negative then ['-'] else if s.plus then ['+'] else if s.space then [' '] else []
  let unsigned (base : Nat) (upper : Bool) (mark : Octets) : Converted :=
    let (n, flaws) := number least greatestUnsigned argument
    let n := (if n < 0 then n + greatestUnsigned + 1 else n).toNat
    ⟨setNumber s (if s.alternate && n ≠ 0 then mark else []) (digits base upper n), false, flaws⟩
  match kind with
  | 's' => some ⟨pad s (argument.take (s.precision?.getD argument.length)), false, []⟩
  | 'b' =>
    let (t, stops) := unescape d argument
    some ⟨pad s (t.take (s.precision?.getD t.length)), stops, []⟩
  | 'c' => some ⟨pad s (if argument = [] then ['\x00'] else argument.take 1), false, []⟩
  | 'd' | 'i' =>
    let (n, flaws) := number least greatest argument
    some ⟨setNumber s (sign (n < 0)) (digits 10 false n.natAbs), false, flaws⟩
  | 'u' => some (unsigned 10 false [])
  | 'o' => some (unsigned 8 false ['0'])
  | 'x' => some (unsigned 16 false ['0', 'x'])
  | 'X' => some (unsigned 16 true ['0', 'X'])
  | 'e' | 'E' | 'f' | 'F' | 'g' | 'G' =>
    let (x, flaws) := realNumber argument
    let body := Number.render kind s.alternate (s.precision?.getD 6) x
    let finite := (Number.quotient? x).isSome
    some ⟨setNumber { s with precision? := none, zeros := s.zeros && finite }
      (sign (Number.isNegative x)) body, false, flaws⟩
  | _ => none

/-- Prints a format once; `fuel` bounds its elements. -/
def once (d : Dialect) : Nat → Octets → List Octets → Printed
  | 0, _, arguments => ⟨[], arguments, true, []⟩
  | _ + 1, [], arguments => ⟨[], arguments, false, []⟩
  | fuel + 1, '\\' :: t, arguments =>
    if d = .program && t.head? = some 'c' then ⟨[], arguments, true, []⟩
    else
      let (b, t) := escape d t
      let p := once d fuel t arguments
      { p with output := b ++ p.output }
  | fuel + 1, '%' :: '%' :: t, arguments =>
    let p := once d fuel t arguments
    { p with output := '%' :: p.output }
  | fuel + 1, '%' :: directive, arguments =>
    let (s, t) := flags directive ⟨false, false, false, false, false, 0, none⟩
    let (width, t, arguments) := amount t arguments
    let (precision, t, arguments) := match t with
      | '.' :: t => let (n, t, arguments) := amount t arguments; (some (n.getD 0), t, arguments)
      | t => (none, t, arguments)
    let t := if d = .program then t.dropWhile fun c => c = 'l' || c = 'h' || c = 'L' else t
    let s := { s with
      left := s.left || width.any (· < 0)
      width := (width.getD 0).natAbs
      precision? := (precision.filter (0 ≤ ·)).map Int.toNat }
    match t with
    | [] => ⟨[], arguments, true, [.noLetter]⟩
    | kind :: t =>
      match convert? d s kind (arguments.headD []) with
      | none =>
        ⟨[], arguments, true, [.badLetter ('%' :: directive.take (directive.length - t.length))]⟩
      | some c =>
        if c.stops then ⟨c.output, arguments.tail, true, c.flaws⟩
        else
          let p := once d fuel t arguments.tail
          { p with output := c.output ++ p.output, flaws := c.flaws ++ p.flaws }
  | fuel + 1, c :: t, arguments =>
    let p := once d fuel t arguments
    { p with output := c :: p.output }

/-- Prints a format, again and again while it takes arguments and there are any. -/
def print (d : Dialect) (format : Octets) (arguments : List Octets) : Octets × List Flaw :=
  go (arguments.length + 1) arguments
where
  /-- Prints at most `fuel` times. -/
  go : Nat → List Octets → Octets × List Flaw
    | 0, _ => ([], [])
    | fuel + 1, arguments =>
      let p := once d (format.length + 1) format arguments
      if p.stops || p.arguments = [] || p.arguments.length = arguments.length then
        (p.output, p.flaws)
      else
        let (output, flaws) := go fuel p.arguments
        (p.output ++ output, p.flaws ++ flaws)

/-- What the shell's `echo` prints. -/
def echo (arguments : List Octets) : Octets :=
  let (feeds, arguments) := match arguments with
    | ['-', 'n'] :: rest => (false, rest)
    | rest => (true, rest)
  let (t, stops) := unescape .shell (Text.join [' '] arguments)
  if feeds && !stops then t ++ ['\n'] else t

end Format
end Doctest
