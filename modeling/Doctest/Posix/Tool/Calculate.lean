/-
# Programs that calculate

`seq` counts, `factor` splits numbers into primes, and `expr` evaluates an expression:

| operators, from the loosest | |
| --- | --- |
| `|`, `&` | the first value that is not null, or both |
| `<` `<=` `=` `==` `!=` `>=` `>` | compare numbers, or else texts |
| `+` `-` | |
| `*` `/` `%` | |
| `:` | what a pattern matches at the start |
| `match` `substr` `index` `length` `+` `(` `)` | |

Null is the empty text or a zero; its exit code is 1.
-/

import Doctest.Posix.Tool.Sorting
import Doctest.Posix.Regex

namespace Doctest
namespace Tool

/-! ## Counting -/

/-- A number filled up with zeros after its sign. -/
def widened (width : Nat) (n : Int) : Octets :=
  let digits := Text.ofNat n.natAbs
  let sign : Octets := if n < 0 then ['-'] else []
  sign ++ List.replicate (width - sign.length - digits.length) '0' ++ digits

/-- Prints whole numbers one after the other. -/
def seq (c : Call) : Reply :=
  let isNumber (w : Octets) : Bool := (Octets.int? w).isSome
  let options := c.arguments.takeWhile fun w => !isNumber w
  let numbers := c.arguments.drop options.length
  match Arguments.read "w" "s" options with
  | .error e => c.usage e 1
  | .ok a =>
    let operands := a.rest ++ numbers
    match operands.find? fun t => !isNumber t, operands.filterMap Octets.int? with
    | some bad, _ => c.usage ("invalid floating point argument: ".toList ++ Quoting.text bad) 1
    | none, [] => c.usage "missing operand".toList 1
    | none, [last] => print a 1 1 last
    | none, [first, last] => print a first 1 last
    | none, [_, 0, _] => c.usage "invalid Zero increment value: '0'".toList 1
    | none, [first, step, last] => print a first step last
    | none, _ => c.usage ("extra operand ".toList ++ Quoting.text (operands[3]?.getD [])) 1
where
  /-- Prints the numbers from one to another. -/
  print (a : Arguments) (first step last : Int) : Reply :=
    let count := ((last - first).fdiv step + 1).toNat
    let numbers := (List.range count).map fun (i : Nat) => first + step * (i : Int)
    let width := if a.has 'w' then
        max (Text.ofInt first).length (Text.ofInt last).length
      else 0
    let separator := (a.value? 's').getD ['\n']
    c.reply (if numbers = [] then []
      else Text.join separator (numbers.map (widened width)) ++ ['\n']) 0

/-! ## Primes -/

/-- The prime factors of a number that has none below `d`; `fuel` bounds the divisions. -/
def factorsFrom : Nat → Nat → Nat → List Nat
  | 0, _, n => [n]
  | fuel + 1, d, n =>
    if n < 2 then []
    else if n < d * d then [n]
    else if n % d = 0 then d :: factorsFrom fuel d (n / d)
    else factorsFrom fuel (d + 1) n

/-- Splits numbers into their prime factors. -/
def factor (c : Call) : Reply :=
  c.withOperands 1 fun operands =>
    let words := if operands = [] then Octets.words c.input else operands
    let shown (n : Nat) : Octets :=
      Text.ofNat n ++ [':'] ++
        ((factorsFrom (n + 2) 2 n).flatMap fun p => ' ' :: Text.ofNat p) ++ ['\n']
    let bad := words.filter fun w => (Octets.nat? w).isNone
    ⟨words.flatMap fun w => ((Octets.nat? w).map shown).getD [],
      bad.flatMap fun w =>
        c.name ++ ": ".toList ++ Quoting.text w ++ " is not a valid positive integer\n".toList,
      if bad = [] then 0 else 1, c.files, Call.needOf operands⟩

/-! ## Expressions -/

/-- Why an expression has no value. -/
inductive ExpressionFault where
  | missingOperand
  | missingAfter (token : Octets)
  | unexpected (token : Octets)
  | unclosed (token : Octets)
  | notNumber
  | divisionByZero
  | badPattern

/-- The message on a fault. -/
def ExpressionFault.message : ExpressionFault → Octets
  | .missingOperand => "missing operand".toList
  | .missingAfter t => "syntax error: missing argument after '".toList ++ t ++ ['\'']
  | .unexpected t => "syntax error: unexpected argument '".toList ++ t ++ ['\'']
  | .unclosed t => "syntax error: expecting ')' after '".toList ++ t ++ ['\'']
  | .notNumber => "non-integer argument".toList
  | .divisionByZero => "division by zero".toList
  | .badPattern => "Invalid regular expression".toList

namespace Expression

/-- What is left of an expression, and the word before it. -/
structure Place where
  rest : List Octets
  before : Octets

/-- Reading an expression. -/
abbrev Reader := StateT Place (Except ExpressionFault)

/-- Takes the next word, which has to be there. -/
def next : Reader Octets := do
  let p ← get
  match p.rest with
  | [] => throw (.missingAfter p.before)
  | w :: ws =>
    set (⟨ws, w⟩ : Place)
    return w

/-- Takes the next word if it is one of these. -/
def accept? (words : List String) : Reader (Option Octets) := do
  let p ← get
  match p.rest with
  | w :: ws =>
    if words.contains (String.ofList w) then
      set (⟨ws, w⟩ : Place)
      return some w
    else return none
  | [] => return none

/-- The number that a text writes. -/
def number? (t : Octets) : Option Int :=
  match t with
  | '-' :: ds => (Octets.nat? ds).map fun n => -(n : Int)
  | ds => (Octets.nat? ds).map fun n => (n : Int)

/-- Whether a value is empty or zero. -/
def isNull (t : Octets) : Bool := t = [] || number? t = some 0

/-- A truth value. -/
def ofBool (b : Bool) : Octets := if b then ['1'] else ['0']

/-- What a pattern matches at the start of a text: its first group, or how many bytes. -/
def matched (t pattern : Octets) : Except ExpressionFault Octets :=
  match Regex.ofText? false pattern with
  | none => .error .badPattern
  | some re =>
    let groups := Text.contains "\\(".toList pattern
    match Regex.matchAt? re t ⟨t, 0, []⟩ with
    | some spot =>
      let m : Regex.Match := ⟨0, spot.offset, spot.groups⟩
      .ok (if groups then m.group t 1 else Text.ofNat spot.offset)
    | none => .ok (if groups then [] else ['0'])

/-- Calculates; nothing is complained about where the value does not count. -/
def calculate (live : Bool) (operator a b : Octets) : Except ExpressionFault Octets :=
  match number? a, number? b with
  | some x, some y =>
    match String.ofList operator with
    | "+" => .ok (Text.ofInt (x + y))
    | "-" => .ok (Text.ofInt (x - y))
    | "*" => .ok (Text.ofInt (x * y))
    | o =>
      if y = 0 then (if live then .error .divisionByZero else .ok ['0'])
      else .ok (Text.ofInt (if o = "/" then x.tdiv y else x.tmod y))
  | _, _ => if live then .error .notNumber else .ok ['0']

/-- Compares numbers, or else texts. -/
def compared (operator a b : Octets) : Octets :=
  let order := match number? a, number? b with
    | some x, some y => compare x y
    | _, _ => compareBytes a b
  ofBool (match String.ofList operator with
    | "<" => order == .lt
    | "<=" => order != .gt
    | "=" | "==" => order == .eq
    | "!=" => order != .eq
    | ">=" => order != .lt
    | _ => order == .gt)

/-- The operators of a level, from the loosest on. -/
def operators : Nat → List String
  | 0 => ["|"]
  | 1 => ["&"]
  | 2 => ["<", "<=", "=", "==", "!=", ">=", ">"]
  | 3 => ["+", "-"]
  | 4 => ["*", "/", "%"]
  | _ => [":"]

mutual

/-- An operand of the tightest operators; `live` when its value counts. -/
def operand : Nat → Bool → Reader Octets
  | 0, _ => throw .missingOperand
  | fuel + 1, live => do
    let w ← next
    match String.ofList w with
    | "(" =>
      let v ← level fuel live 0
      match (← get).rest with
      | [] => throw (.unclosed (← get).before)
      | _ =>
        match ← accept? [")"] with
        | some _ => return v
        | none => throw (.unexpected ((← get).rest.headD []))
    | ")" => throw (.unexpected w)
    | "+" => next
    | "length" => return Text.ofNat (← operand fuel live).length
    | "match" =>
      let t ← operand fuel live
      let p ← operand fuel live
      matched t p
    | "index" =>
      let t ← operand fuel live
      let set ← operand fuel live
      return Text.ofNat (match t.findIdx? fun c => set.any (· = c) with
        | some i => i + 1
        | none => 0)
    | "substr" =>
      let t ← operand fuel live
      let start ← operand fuel live
      let length ← operand fuel live
      match number? start, number? length with
      | some i, some n =>
        if i ≤ 0 || n ≤ 0 then return []
        else return (t.drop (i.toNat - 1)).take n.toNat
      | _, _ => return []
    | _ => return w

/-- A value of a level. -/
def level : Nat → Bool → Nat → Reader Octets
  | 0, _, _ => throw .missingOperand
  | fuel + 1, live, n => do
    let first ← if 5 < n then operand fuel live else level fuel live (n + 1)
    if 5 < n then return first else more fuel live n first

/-- What follows a value on its level. -/
def more : Nat → Bool → Nat → Octets → Reader Octets
  | 0, _, _, a => return a
  | fuel + 1, live, n, a => do
    match ← accept? (operators n) with
    | none => return a
    | some o =>
      let counts := live && (n ≠ 0 || isNull a) && (n ≠ 1 || !isNull a)
      let b ← level fuel counts (n + 1)
      let v ← match n with
        | 0 => pure (if !isNull a then a else if isNull b then ['0'] else b)
        | 1 => pure (if isNull a || isNull b then ['0'] else a)
        | 2 => pure (compared o a b)
        | 3 | 4 => liftM (calculate live o a b)
        | _ => liftM (matched a b)
      more fuel live n v

end

/-- The value of an expression. -/
def evaluate (words : List Octets) : Except ExpressionFault Octets :=
  if words = [] then .error .missingOperand
  else do
    let (v, p) ← (level (16 * words.length + 16) true 0).run ⟨words, []⟩
    match p.rest with
    | [] => return v
    | w :: _ => throw (.unexpected w)

end Expression

/-- Evaluates an expression. -/
def expr (c : Call) : Reply :=
  let words := if c.arguments.head? = some "--".toList then c.arguments.tail else c.arguments
  match Expression.evaluate words with
  | .ok v => c.reply (v ++ ['\n']) (if Expression.isNull v then 1 else 0)
  | .error .missingOperand => c.usage "missing operand".toList 2
  | .error e => c.refuse e.message 2

end Tool
end Doctest
