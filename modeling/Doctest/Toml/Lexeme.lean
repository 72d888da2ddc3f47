/-
# Strings, keys and integers of a settings file

Each reader takes a text and returns what it read and the rest of the text.

| inside | not allowed |
| --- | --- |
| a comment, a string on one line | control characters but the tab |
| a string over several lines | control characters but the tab and line ends |

A line end is `\n` or `\r\n` and counts as `\n` inside a string.
-/

import Doctest.Toml.Value

namespace Doctest
namespace Toml

/-- A reader: what it read, and the rest. -/
abbrev Reader (α : Type) := Text → Option (α × Text)

/-- Whether a character is a space or a tab. -/
def isSpace (c : Char) : Bool := c = ' ' || c = '\t'

/-- Whether a character is a control character other than the tab. -/
def isControl (c : Char) : Bool := (c < ' ' && c ≠ '\t') || c = '\x7f'

/-- The text after the spaces and tabs at its start. -/
def skipSpaces (t : Text) : Text := t.dropWhile isSpace

/-- The text after the line end at its start. -/
def lineEnd? : Text → Option Text
  | '\n' :: t => some t
  | '\r' :: '\n' :: t => some t
  | _ => none

/-- The text from the end of the line on, after a comment if there is one. -/
def skipComment? (t : Text) : Option Text :=
  match t with
  | '#' :: t =>
    let body := t.takeWhile (· ≠ '\n')
    let rest := t.drop body.length
    let (body, rest) : Text × Text :=
      if body.getLast? = some '\r' && rest ≠ [] then (body.dropLast, '\r' :: rest) else (body, rest)
    if body.any isControl then none else some rest
  | t => some t

/-- The text after the end of the line, before which only spaces and a comment stand. -/
def finishLine? (t : Text) : Option Text := do
  let t ← skipComment? (skipSpaces t)
  if t = [] then some [] else lineEnd? t

/-- The text after all spaces, line ends and comments at its start. -/
def skipGaps? : Nat → Text → Option Text
  | 0, t => some t
  | fuel + 1, t => do
    let t ← skipComment? (skipSpaces t)
    match lineEnd? t with
    | some rest => skipGaps? fuel rest
    | none => some t

/-- The value of a hexadecimal digit. -/
def hexDigit? (c : Char) : Option Nat :=
  if '0' ≤ c && c ≤ '9' then some (c.toNat - 48)
  else if 'a' ≤ c && c ≤ 'f' then some (c.toNat - 87)
  else if 'A' ≤ c && c ≤ 'F' then some (c.toNat - 55)
  else none

/-- The character whose code point is written in the next `n` hexadecimal digits. -/
def codePoint (n : Nat) : Reader Char := fun t => do
  let digits := t.take n
  if digits.length < n then none
  else
    let code ← digits.foldlM (fun acc c => (hexDigit? c).map (acc * 16 + ·)) 0
    if code.isValidChar then some (Char.ofNat code, t.drop n) else none

/-- The character after a backslash. -/
def escaped : Reader Char
  | 'b' :: t => some ('\x08', t)
  | 't' :: t => some ('\t', t)
  | 'n' :: t => some ('\n', t)
  | 'f' :: t => some ('\x0c', t)
  | 'r' :: t => some ('\r', t)
  | '"' :: t => some ('"', t)
  | '\\' :: t => some ('\\', t)
  | 'u' :: t => codePoint 4 t
  | 'U' :: t => codePoint 8 t
  | _ => none

/-- The text after all spaces, tabs and line ends at its start. -/
def skipBlanks : Text → Text
  | ' ' :: t => skipBlanks t
  | '\t' :: t => skipBlanks t
  | '\n' :: t => skipBlanks t
  | '\r' :: '\n' :: t => skipBlanks t
  | t => t

/-- The text after a backslash at the end of a line and all white space that follows it. -/
def joinedLine? (t : Text) : Option Text := (lineEnd? (skipSpaces t)).map skipBlanks

/-- A string on one line, after its opening `quote`; `raw` when a backslash has no meaning. -/
def shortString (raw : Bool) (quote : Char) : Nat → Reader Text
  | 0, _ => none
  | _ + 1, [] => none
  | fuel + 1, c :: t =>
    if c = quote then some ([], t)
    else if c = '\\' && !raw then do
      let (d, t) ← escaped t
      let (s, t) ← shortString raw quote fuel t
      some (d :: s, t)
    else if isControl c then none
    else do
      let (s, t) ← shortString raw quote fuel t
      some (c :: s, t)

/-- The end of a string over several lines: three quotes, before which two more may stand. -/
def closingQuotes? (quote : Char) (t : Text) : Option (Text × Text) :=
  let run := (t.takeWhile (· = quote)).length
  if run < 3 then none
  else
    let inner := min (run - 3) 2
    some (List.replicate inner quote, t.drop (inner + 3))

/-- A string over several lines, after its three opening quotes. -/
def longString (raw : Bool) (quote : Char) : Nat → Reader Text
  | 0, _ => none
  | _ + 1, [] => none
  | fuel + 1, c :: t =>
    match closingQuotes? quote (c :: t) with
    | some r => some r
    | none =>
      if c = '\\' && !raw then
        match joinedLine? t with
        | some t => longString raw quote fuel t
        | none => do
          let (d, t) ← escaped t
          let (s, t) ← longString raw quote fuel t
          some (d :: s, t)
      else match lineEnd? (c :: t) with
        | some t => do
          let (s, t) ← longString raw quote fuel t
          some ('\n' :: s, t)
        | none =>
          if isControl c then none
          else do
            let (s, t) ← longString raw quote fuel t
            some (c :: s, t)

/-- A string of any form. -/
def string (t : Text) : Option (Text × Text) :=
  match t with
  | c :: rest =>
    if c = '"' || c = '\'' then
      let raw : Bool := c = '\''
      match Text.afterStart? [c, c] rest with
      | some body => longString raw c (body.length + 1) ((lineEnd? body).getD body)
      | none => shortString raw c (rest.length + 1) rest
    else none
  | [] => none

/-- Whether a character may stand in a key without quotes. -/
def isKeyChar (c : Char) : Bool :=
  ('a' ≤ c && c ≤ 'z') || ('A' ≤ c && c ≤ 'Z') || ('0' ≤ c && c ≤ '9') || c = '_' || c = '-'

/-- A key without points: bare, or a string on one line. -/
def simpleKey (t : Text) : Option (Text × Text) :=
  match t with
  | '"' :: rest => shortString false '"' (rest.length + 1) rest
  | '\'' :: rest => shortString true '\'' (rest.length + 1) rest
  | t =>
    let key := t.takeWhile isKeyChar
    if key = [] then none else some (key, t.drop key.length)

/-- A key: simple keys with points between them and spaces around them. -/
def dottedKey : Nat → Reader (List Text)
  | 0, _ => none
  | fuel + 1, t => do
    let (key, t) ← simpleKey (skipSpaces t)
    match skipSpaces t with
    | '.' :: t => do
      let (keys, t) ← dottedKey fuel t
      some (key :: keys, t)
    | t => some ([key], t)

/-- A key has fewer parts than this, and a value stands in fewer brackets and braces. -/
def nestingLimit : Nat := 80

/-- A key that is not too long. -/
def key (t : Text) : Option (List Text × Text) :=
  (dottedKey (t.length + 1) t).filter fun r => r.1.length < nestingLimit

/-- The number written in digits of a base, with single underscores between digits. -/
def digits (base : Nat) : Nat → Bool → Text → Option (Nat × Text)
  | acc, afterDigit, c :: t =>
    match (hexDigit? c).filter (· < base) with
    | some d => digits base (acc * base + d) true t
    | none =>
      if c = '_' && afterDigit && (t.head?.bind hexDigit?).any (· < base) then
        digits base acc false t
      else if afterDigit then some (acc, c :: t) else none
  | acc, afterDigit, [] => if afterDigit then some (acc, []) else none

/-- The integers that a setting can hold: those of 64 bits with a sign. -/
def isInRange (n : Int) : Bool := -9223372036854775808 ≤ n && n < 9223372036854775808

/-- A decimal integer without zeros before its first digit. -/
def decimal (t : Text) : Option (Nat × Text) := do
  let (n, rest) ← digits 10 0 false t
  let used := t.length - rest.length
  if t.head? = some '0' && 1 < used then none else some (n, rest)

/-- An integer. -/
def integer (t : Text) : Option (Int × Text) := do
  let (n, rest) ← (match t with
    | '0' :: 'x' :: t => (digits 16 0 false t).map fun r => ((r.1 : Int), r.2)
    | '0' :: 'o' :: t => (digits 8 0 false t).map fun r => ((r.1 : Int), r.2)
    | '0' :: 'b' :: t => (digits 2 0 false t).map fun r => ((r.1 : Int), r.2)
    | '+' :: t => (decimal t).map fun r => ((r.1 : Int), r.2)
    | '-' :: t => (decimal t).map fun r => (-(r.1 : Int), r.2)
    | t => (decimal t).map fun r => ((r.1 : Int), r.2))
  if isInRange n then some (n, rest) else none

end Toml
end Doctest
