/-
# Arithmetic of the shell

| operators, the strongest first | |
| --- | --- |
| `!` `~` `-` `+` | before an operand |
| `*` `/` `%` | division goes toward zero |
| `+` `-` | |
| `<<` `>>` | |
| `<` `<=` `>` `>=` | 1 or 0 |
| `==` `!=` | |
| `&`, `^`, `|` | on the bits of 64-bit words |
| `&&`, `||` | 1 or 0 |
| `a ? b : c` | |
| `=` and an operator before it | to a variable |

A variable that has no value counts as zero; any other value has to be a number.
-/

import Doctest.Posix.Shell.Grammar
import Doctest.Posix.Format

namespace Doctest
namespace Shell
namespace Arithmetic

/-- A token. -/
inductive Token where
  | number (n : Int)
  | name (t : Octets)
  | sign (t : Octets)
  | other (c : Char)
deriving DecidableEq, Repr

/-- The signs, longer ones before those that they start with. -/
def signs : List Octets :=
  List.map String.toList ["<<=", ">>=", "&=", "^=", "|=", "<<", ">>", "<=", ">=", "==", "!=", "&&",
    "||", "+=", "-=", "*=", "/=", "%=", "+", "-", "*", "/", "%", "<", ">", "&", "^", "|",
    "!", "~", "?", ":", "=", "(", ")"]

/-- The digits of the number at the start of a text, with the mark of its base. -/
def numeral : Octets → Octets
  | '0' :: x :: t =>
    if x = 'x' || x = 'X' then '0' :: x :: t.takeWhile fun c => (Octets.digitValue? c).isSome
    else '0' :: (x :: t).takeWhile Octets.isOctal
  | t => t.takeWhile Octets.isDigit

/-- The tokens of a text; `fuel` bounds their number. -/
def tokens : Nat → Octets → List Token
  | 0, _ => []
  | fuel + 1, t =>
    match t.dropWhile fun c => c = ' ' || c = '\t' || c = '\n' with
    | [] => []
    | c :: rest =>
      if Octets.isDigit c then
        let digits := numeral (c :: rest)
        .number ((Format.number? digits).map Prod.fst |>.getD 0) ::
          tokens fuel ((c :: rest).drop digits.length)
      else if startsName c then
        let name := (c :: rest).takeWhile inName
        .name name :: tokens fuel ((c :: rest).drop name.length)
      else match signs.find? (Text.startsWith · (c :: rest)) with
        | some s => .sign s :: tokens fuel ((c :: rest).drop s.length)
        | none => .other c :: tokens fuel rest

/-- An expression. -/
inductive Expression where
  | number (n : Int)
  | variable_ (name : Octets)
  | before (sign : Octets) (a : Expression)
  | between (sign : Octets) (a b : Expression)
  | choose (condition yes no : Expression)
  | assign (name sign : Octets) (a : Expression)
deriving Repr

/-- How strongly a sign between two operands binds. -/
def strength? (sign : Octets) : Option Nat :=
  match String.ofList sign with
  | "*" | "/" | "%" => some 10
  | "+" | "-" => some 9
  | "<<" | ">>" => some 8
  | "<" | "<=" | ">" | ">=" => some 7
  | "==" | "!=" => some 6
  | "&" => some 5
  | "^" => some 4
  | "|" => some 3
  | "&&" => some 2
  | "||" => some 1
  | _ => none

/-- Whether a sign assigns to a variable. -/
def assigns (sign : Octets) : Bool :=
  (["=", "+=", "-=", "*=", "/=", "%=", "<<=", ">>=", "&=", "^=",
    "|="].map String.toList).contains sign

mutual

/-- An expression that may assign or choose. -/
def whole? : Nat → List Token → Option (Expression × List Token)
  | 0, _ => none
  | fuel + 1, ts =>
    match ts with
    | .name x :: .sign s :: more =>
      if assigns s then (whole? fuel more).map fun (a, rest) => (.assign x s a, rest)
      else chosen? fuel ts
    | _ => chosen? fuel ts

/-- A choice between two expressions, or its condition alone. -/
def chosen? : Nat → List Token → Option (Expression × List Token)
  | 0, _ => none
  | fuel + 1, ts => do
    let (a, rest) ← operand? fuel ts
    let (a, rest) ← joined? fuel 1 a rest
    match rest with
    | .sign ['?'] :: rest =>
      let (yes, rest) ← whole? fuel rest
      match rest with
      | .sign [':'] :: rest =>
        let (no, rest) ← whole? fuel rest
        return (.choose a yes no, rest)
      | _ => none
    | rest => return (a, rest)

/-- What is joined to an expression by signs that bind at least so strongly. -/
def joined? : Nat → Nat → Expression → List Token → Option (Expression × List Token)
  | 0, _, _, _ => none
  | fuel + 1, least, a, ts =>
    match ts with
    | .sign s :: more =>
      match strength? s with
      | some n =>
        if n < least then some (a, ts)
        else do
          let (b, rest) ← operand? fuel more
          let (b, rest) ← joined? fuel (n + 1) b rest
          joined? fuel least (.between s a b) rest
      | none => some (a, ts)
    | ts => some (a, ts)

/-- An operand. -/
def operand? : Nat → List Token → Option (Expression × List Token)
  | 0, _ => none
  | fuel + 1, ts =>
    match ts with
    | .number n :: rest => some (.number n, rest)
    | .name x :: rest => some (.variable_ x, rest)
    | .sign ['('] :: rest => do
      let (a, rest) ← whole? fuel rest
      match rest with
      | .sign [')'] :: rest => return (a, rest)
      | _ => none
    | .sign s :: rest =>
      if s = ['-'] || s = ['+'] || s = ['!'] || s = ['~'] then
        (operand? fuel rest).map fun (a, rest) => (.before s a, rest)
      else none
    | .other _ :: _ | [] => none

end

/-- How many words of 64 bits there are. -/
def words : Nat := 18446744073709551616

/-- A number as a 64-bit word with a sign. -/
def wrap (n : Int) : Int := Int.bmod n words

/-- The word with the same bits, without a sign. -/
def bits (n : Int) : Nat := (n % words).toNat

/-- A truth value as a number. -/
def truth (b : Bool) : Int := if b then 1 else 0

/-- Why a text has no value. -/
inductive Failure where
  | noPrimary
  | noEnd
  | divisionByZero
  | notNumber (value : Octets)
deriving DecidableEq, Repr

/-- The message on a text without a value. -/
def Failure.message : Failure → Octets
  | .noPrimary => "expecting primary".toList
  | .noEnd => "expecting EOF".toList
  | .divisionByZero => "division by zero".toList
  | .notNumber value => "Illegal number: ".toList ++ value

/-- The value of two operands with a sign between them; there is none for a division by zero. -/
def combine? (sign : Octets) (a b : Int) : Option Int :=
  match String.ofList sign with
  | "*" => some (wrap (a * b))
  | "/" => if b = 0 then none else some (wrap (Int.tdiv a b))
  | "%" => if b = 0 then none else some (Int.tmod a b)
  | "+" => some (wrap (a + b))
  | "-" => some (wrap (a - b))
  | "<<" => some (wrap (a * ((1 <<< (b % 64).toNat : Nat) : Int)))
  | ">>" => some (a >>> (b % 64).toNat)
  | "<" => some (truth (a < b))
  | "<=" => some (truth (a ≤ b))
  | ">" => some (truth (b < a))
  | ">=" => some (truth (b ≤ a))
  | "==" => some (truth (a = b))
  | "!=" => some (truth (a ≠ b))
  | "&" => some (wrap (bits a &&& bits b : Nat))
  | "^" => some (wrap (bits a ^^^ bits b : Nat))
  | "|" => some (wrap (bits a ||| bits b : Nat))
  | "&&" => some (truth (a ≠ 0 && b ≠ 0))
  | "||" => some (truth (a ≠ 0 || b ≠ 0))
  | _ => none

/-- The values of variables, those assigned last first. -/
abbrev Values := List (Octets × Int)

/-- The value of a variable, one assigned on the way before one that it had. -/
def current (look : Octets → Except Octets Int) (vs : Values) (x : Octets) : Except Failure Int :=
  match vs.lookup x with
  | some n => .ok n
  | none => (look x).mapError Failure.notNumber

/-- The value of an expression and the values assigned on the way. -/
def Expression.value (look : Octets → Except Octets Int) :
    Expression → Values → Except Failure (Int × Values)
  | .number n, vs => .ok (wrap n, vs)
  | .variable_ x, vs => (current look vs x).map (·, vs)
  | .before s a, vs => do
    let (n, vs) ← a.value look vs
    match s with
    | ['-'] => return (wrap (-n), vs)
    | ['!'] => return (truth (n = 0), vs)
    | ['~'] => return (-n - 1, vs)
    | _ => return (n, vs)
  | .between s a b, vs => do
    let (m, vs) ← a.value look vs
    if s = "&&".toList && m = 0 then return (0, vs)
    else if s = "||".toList && m ≠ 0 then return (1, vs)
    else
      let (n, vs) ← b.value look vs
      match combine? s m n with
      | some r => return (r, vs)
      | none => throw .divisionByZero
  | .choose c yes no, vs => do
    let (n, vs) ← c.value look vs
    if n ≠ 0 then yes.value look vs else no.value look vs
  | .assign x s a, vs => do
    let (n, vs) ← a.value look vs
    if s = ['='] then return (n, (x, n) :: vs)
    else
      let old ← current look vs x
      match combine? s.dropLast old n with
      | some new => return (new, (x, new) :: vs)
      | none => throw .divisionByZero

/-- The value of a text and the values that it assigns; nothing at all counts as zero. -/
def evaluate (look : Octets → Except Octets Int) (t : Octets) : Except Failure (Int × Values) :=
  match tokens (t.length + 1) t with
  | [] => .ok (0, [])
  | ts =>
    match whole? (8 * ts.length + 8) ts with
    | none => .error .noPrimary
    | some (_, _ :: _) => .error .noEnd
    | some (e, []) => e.value look []

end Arithmetic
end Shell
end Doctest
