/-
# Conditions

| condition | holds when |
| --- | --- |
| `s`, `-n s` | the text is not empty |
| `-z s` | it is empty |
| `s = t`, `s != t` | the texts compare so |
| `i -eq j` and `-ne` `-lt` `-le` `-gt` `-ge` | the numbers compare so |
| `p -ef q`, `p -nt q`, `p -ot q` | the paths lead to one file, or one file is newer |
| `-e p` `-f p` `-d p` `-s p` `-x p` `-h p` … | there is something, a regular file, … |
| `! c`, `( c )`, `c -a d`, `c -o d` | |

The shell also knows `s < t` and `s > t`.
-/

import Doctest.Posix.Files

namespace Doctest
namespace Condition

/-- A condition may make no sense, for a reason in words. -/
abbrev Outcome := Except Octets

/-- The files that conditions are about, and where relative paths start. -/
structure Surroundings where
  files : Files
  cwd : Place

/-! ## Numbers -/

/-- Whether a byte is white space. -/
def isSpace (c : Char) : Bool := c = ' ' || (9 ≤ c.toNat && c.toNat ≤ 13)

/-- The number that a text writes, perhaps between blanks. -/
def number? (t : Octets) : Option Int :=
  Octets.int? (Text.trimEndWhile isSpace (t.dropWhile isSpace))

/-- Compares two numbers as an operator asks. -/
def compareNumbers? (op : Octets) (i j : Int) : Option Bool :=
  match String.ofList op with
  | "-eq" => some (i = j)
  | "-ne" => some (i ≠ j)
  | "-lt" => some (i < j)
  | "-le" => some (i ≤ j)
  | "-gt" => some (j < i)
  | "-ge" => some (j ≤ i)
  | _ => none

/-! ## Files -/

/-- What is at the end of a path. -/
def Surroundings.node? (w : Surroundings) (path : Octets) : Option Node := w.files.find? w.cwd path

/-- Where a path leads, if there is something. -/
def Surroundings.place? (w : Surroundings) (path : Octets) : Option Place :=
  match w.files.walk w.cwd path with
  | .ok (.found place _) => some place
  | _ => none

/-- What a letter says about a path. -/
def Surroundings.fileTest? (w : Surroundings) (letter : Char) (path : Octets) : Option Bool :=
  let node? := w.node? path
  match letter with
  | 'e' | 'r' | 'w' | 'O' | 'G' => some node?.isSome
  | 'f' => some (node?.any Node.isFile)
  | 'd' => some (node? == some .directory)
  | 's' => some (match node? with
    | some (.file content _) => !content.isEmpty
    | some (.device _) | none => false
    | some _ => true)
  | 'x' => some (node?.any fun n => n == .directory || n.isExecutable)
  | 'h' | 'L' => some (match w.files.walkTo false w.cwd path with
    | .ok (.found _ (.link _)) => true
    | _ => false)
  | 'c' => some (match node? with
    | some (.device _) => true
    | _ => false)
  | 'b' | 'p' | 'S' | 'u' | 'g' | 'k' => some false
  | _ => none

/-- What an operator says about two paths. -/
def Surroundings.compareFiles? (w : Surroundings) (op a b : Octets) : Option Bool :=
  match String.ofList op with
  | "-ef" => some (match w.place? a, w.place? b with
    | some p, some q => p = q
    | _, _ => false)
  | "-nt" | "-ot" => some false
  | _ => none

/-! ## Conditions of several words -/

/-- What a word is: `-a` and `-o` join conditions, and a binary operator stands between operands. -/
inductive Word where
  | nothing
  | operand
  | negation
  | conjunction
  | disjunction
  | opening
  | closing
  | unary (letter : Char)
  | binary (op : Octets)
deriving DecidableEq

/-- The operator that a text is. -/
def operator? (t : Octets) : Option Word :=
  match String.ofList t with
  | "!" => some .negation
  | "-a" => some .conjunction
  | "-o" => some .disjunction
  | "(" => some .opening
  | ")" => some .closing
  | "=" | "!=" | "<" | ">" | "-eq" | "-ne" | "-ge" | "-gt" | "-le" | "-lt" => some (.binary t)
  | "-nt" | "-ot" | "-ef" => some (.binary t)
  | _ => match t with
    | ['-', letter] =>
      if "rwxefdcbpugkstznhOGLS".toList.contains letter then some (.unary letter) else none
    | _ => none

/-- Whether a text stands between two operands. -/
def isBinary (t : Octets) : Bool :=
  match operator? t with
  | some (.binary _) => true
  | _ => false

/-- What the first of some arguments is: a unary operator before a binary one, or before nothing, is
an operand, and so is an opening parenthesis before nothing. -/
def word : List Octets → Word
  | [] => .nothing
  | t :: rest =>
    match operator? t, rest with
    | some (.unary _), [] => .operand
    | some (.unary letter), [_] => .unary letter
    | some (.unary letter), a :: _ => if isBinary a then .operand else .unary letter
    | some .opening, [] => .operand
    | some w, _ => w
    | none, _ => .operand

/-- The number that an operand writes. -/
def number (t : Octets) : Outcome Int :=
  let bound : Int := 9223372036854775808
  match number? t with
  | some n =>
    if -bound ≤ n && n < bound then .ok n else .error ("Illegal number: ".toList ++ t)
  | none => .error ("Illegal number: ".toList ++ t)

/-- Whether an operator holds between two operands. -/
def compare (w : Surroundings) (op a b : Octets) : Outcome Bool :=
  let less (a b : Octets) : Bool := decide (a.map Char.toNat < b.map Char.toNat)
  match String.ofList op, w.compareFiles? op a b with
  | "=", _ => .ok (a = b)
  | "!=", _ => .ok (a ≠ b)
  | "<", _ => .ok (less a b)
  | ">", _ => .ok (less b a)
  | _, some r => .ok r
  | _, none => do return (compareNumbers? op (← number a) (← number b)).getD false

/-- Whether a unary operator holds of an operand. -/
def single (w : Surroundings) (letter : Char) (a : Octets) : Outcome Bool :=
  match letter with
  | 'n' => .ok (a ≠ [])
  | 'z' => .ok (a = [])
  | 't' => (number a).map fun _ => false
  | l => .ok ((w.fileTest? l a).getD false)

mutual

/-- Conditions joined by `-o` from an argument on, which is of the kind `first`; what is left begins
with the last argument that was used.  `fuel` bounds the nesting. -/
def disjunction (w : Surroundings) : Nat → Word → List Octets → Outcome (Bool × List Octets)
  | 0, _, args => .ok (false, args)
  | fuel + 1, first, args => do
    let (a, args) ← conjunction w fuel first args
    if word (args.drop 1) = .disjunction then
      let rest := args.drop 2
      let (b, args) ← disjunction w fuel (word rest) rest
      return (a || b, args)
    else return (a, args)

/-- Conditions joined by `-a`. -/
def conjunction (w : Surroundings) : Nat → Word → List Octets → Outcome (Bool × List Octets)
  | 0, _, args => .ok (false, args)
  | fuel + 1, first, args => do
    let (a, args) ← negation w fuel first args
    if word (args.drop 1) = .conjunction then
      let rest := args.drop 2
      let (b, args) ← conjunction w fuel (word rest) rest
      return (a && b, args)
    else return (a, args)

/-- A condition after any number of `!`. -/
def negation (w : Surroundings) : Nat → Word → List Octets → Outcome (Bool × List Octets)
  | 0, _, args => .ok (false, args)
  | fuel + 1, first, args => do
    if first = .negation then
      let next := word (args.drop 1)
      let (a, args) ← negation w fuel next (if next = .nothing then args else args.drop 1)
      return (!a, args)
    else primary w fuel first args

/-- A condition that is not joined from others. -/
def primary (w : Surroundings) : Nat → Word → List Octets → Outcome (Bool × List Octets)
  | 0, _, args => .ok (false, args)
  | fuel + 1, first, args => do
    match first, args with
    | .nothing, _ | _, [] => return (false, args)
    | .opening, _ :: rest =>
      if word rest = .closing then return (false, rest)
      let (a, rest) ← disjunction w fuel (word rest) rest
      if word (rest.drop 1) = .closing then return (a, rest.drop 1)
      else throw "closing paren expected".toList
    | .unary letter, op :: rest =>
      match rest with
      | [] => throw (op ++ ": argument expected".toList)
      | a :: _ => return (← single w letter a, rest)
    | _, a :: rest =>
      match word rest, rest with
      | .binary op, [_] => throw (op ++ ": argument expected".toList)
      | .binary op, _ :: b :: more => return (← compare w op a b, b :: more)
      | _, _ => return (a ≠ [], args)

end

/-- Whether the condition that arguments state holds.  Three with an operator in the middle compare
two operands; else parentheses around three or four, or a negation before them, count first. -/
def evaluate (w : Surroundings) : Bool → List Octets → Outcome Bool
  | negated, [] => .ok negated
  | negated, a :: rest =>
    let whole (first : Word) (args : List Octets) : Outcome Bool := do
      let (r, left) ← disjunction w (4 * args.length + 8) first args
      match left with
      | a :: _ :: _ => throw (a ++ ": unexpected operator".toList)
      | _ => return r != negated
    let few : Bool := rest.length = 2 || rest.length = 3
    if rest.length = 2 && isBinary (rest.headD []) then whole .operand (a :: rest)
    else if few && a = ['('] && rest.getLast? = some [')'] then
      whole (word rest.dropLast) rest.dropLast
    else if few && a = ['!'] then evaluate w true rest
    else whole (word (a :: rest)) (a :: rest)

end Condition
end Doctest
