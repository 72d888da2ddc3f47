/-
# Programs on records

`awk` runs the rules of a program on the lines of its input, each of which is split into fields.

| | |
| --- | --- |
| a rule | `BEGIN`, `END`, an expression or nothing, and then statements between braces |
| a statement | `print`, `printf`, `next`, or an expression |
| an operand | a number, a text, `/re/`, a variable, `$` and an operand, `(` … `)` |

Operators, from the loosest: `=` `+=` `-=`; `||`; `&&`; `~` `!~`; comparisons; joining texts, which
is written without an operator; `+` `-`; `*` `/` `%`; `!` `-`.
-/

import Doctest.Posix.Tool.Basic
import Doctest.Posix.Regex
import Doctest.Posix.Format

namespace Doctest
namespace Awk

/-- An operator between two operands. -/
inductive Operator where
  | or
  | and
  | matches
  | matchesNot
  | compares (accepts : List Ordering)
  | joins
  | adds
  | subtracts
  | multiplies
  | divides
  | leaves

/-- An expression; an assignment may combine the new value with the old one. -/
inductive Expression where
  | number (x : Float)
  | text (t : Octets)
  | found (r : Regex)
  | variable (name : Octets)
  | field (index : Expression)
  | set (name : Octets) (operator? : Option Operator) (e : Expression)
  | not (e : Expression)
  | negative (e : Expression)
  | binary (o : Operator) (a b : Expression)

/-- A statement. -/
inductive Statement where
  | print (es : List Expression)
  | format (es : List Expression)
  | evaluate (e : Expression)
  | next

/-- When a rule applies. -/
inductive Occasion where
  | start
  | stop
  | line (condition? : Option Expression)

/-- A rule; without statements it prints the line. -/
structure Rule where
  occasion : Occasion
  body? : Option (List Statement)

/-! ## Reading -/

/-- Reading a program, which may fail. -/
abbrev Reader := StateT Octets Option

/-- Goes behind blanks. -/
def skip : Reader Unit := modify fun t => t.dropWhile fun c => c = ' ' || c = '\t'

/-- Takes a text if it comes next. -/
def accept (w : String) : Reader Bool := do
  skip
  match Text.afterStart? w.toList (← get) with
  | some rest =>
    set rest
    return true
  | none => return false

/-- The bytes of a name. -/
def isNameByte (c : Char) : Bool := c.isAlphanum || c = '_'

/-- Takes a word if it comes next and no name goes on after it. -/
def acceptWord (w : String) : Reader Bool := do
  skip
  match Text.afterStart? w.toList (← get) with
  | some rest =>
    if rest.head?.any isNameByte then return false
    set rest
    return true
  | none => return false

/-- The text up to a delimiter, with its escapes replaced unless they belong to an expression. -/
def upTo (delimiter : Char) (keepsEscapes : Bool) : Octets → Option (Octets × Octets)
  | [] => none
  | '\\' :: c :: t =>
    let b := if keepsEscapes then ['\\', c] else [(Format.letter? c).getD c]
    (upTo delimiter keepsEscapes t).map fun (a, rest) => (b ++ a, rest)
  | c :: t =>
    if c = delimiter then some ([], t)
    else (upTo delimiter keepsEscapes t).map fun (a, rest) => (c :: a, rest)

/-- The operators of a level, from the loosest on; a longer one stands before its own start. -/
def operators : Nat → List (String × Operator)
  | 0 => [("||", .or)]
  | 1 => [("&&", .and)]
  | 2 => [("!~", .matchesNot), ("~", .matches)]
  | 3 => [("<=", .compares [.lt, .eq]), ("==", .compares [.eq]), ("!=", .compares [.lt, .gt]),
      (">=", .compares [.gt, .eq]), ("<", .compares [.lt]), (">", .compares [.gt])]
  | 4 => []
  | 5 => [("+", .adds), ("-", .subtracts)]
  | _ => [("*", .multiplies), ("/", .divides), ("%", .leaves)]

/-- Takes an operator of a level.  Texts are joined where an operand follows at once. -/
def operator? (level : Nat) : Reader (Option Operator) := do
  skip
  let t ← get
  let startsOperand (c : Char) : Bool := isNameByte c || c = '$' || c = '"' || c = '('
  if level = 4 then return if t.head?.any startsOperand then some .joins else none
  match (operators level).findSome? fun (w, o) =>
    (Text.afterStart? w.toList t).map fun rest => (o, rest) with
  | some (o, rest) =>
    if 5 ≤ level && rest.head? = some '=' then return none
    set rest
    return some o
  | none => return none

mutual

/-- Reads an operand; `fuel` bounds the depth. -/
def operand : Nat → Reader Expression
  | 0 => failure
  | fuel + 1 => do
    skip
    match ← get with
    | '(' :: t =>
      set t
      let e ← expression fuel
      if ← accept ")" then return e else failure
    | '$' :: t =>
      set t
      return .field (← operand fuel)
    | '!' :: t =>
      set t
      return .not (← operand fuel)
    | '-' :: t =>
      set t
      return .negative (← operand fuel)
    | '"' :: t =>
      let (a, rest) ← upTo '"' false t
      set rest
      return .text a
    | '/' :: t =>
      let (a, rest) ← upTo '/' true t
      set rest
      return .found (← Regex.ofText? true a)
    | c :: t =>
      if Octets.isDigit c || c = '.' then
        let (x, rest) ← Number.read? (c :: t)
        set rest
        return .number x
      else
        let name := (c :: t).takeWhile isNameByte
        if name = [] then failure
        set ((c :: t).drop name.length)
        return .variable name
    | [] => failure

/-- Reads an expression of a level. -/
def level : Nat → Nat → Reader Expression
  | 0, _ => failure
  | fuel + 1, n => do
    if 6 < n then operand fuel else more fuel n (← level fuel (n + 1))

/-- Reads what follows an operand of a level. -/
def more : Nat → Nat → Expression → Reader Expression
  | 0, _, a => return a
  | fuel + 1, n, a => do
    match ← operator? n with
    | some o => more fuel n (.binary o a (← level fuel (n + 1)))
    | none => return a

/-- Reads an expression, which may be an assignment. -/
def expression : Nat → Reader Expression
  | 0 => failure
  | fuel + 1 => do
    let e ← level fuel 0
    match e with
    | .variable name =>
      if ← accept "+=" then return .set name (some .adds) (← expression fuel)
      else if ← accept "-=" then return .set name (some .subtracts) (← expression fuel)
      else if ← accept "=" then return .set name none (← expression fuel)
      else return e
    | e => return e

end

/-- Whether a byte ends a statement or stands between two of them. -/
def isBetween (c : Char) : Bool := c = ' ' || c = '\t' || c = ';' || c = '\n'

/-- Reads expressions with commas between them; `fuel` bounds their number. -/
def expressions : Nat → Reader (List Expression)
  | 0 => return []
  | fuel + 1 => do
    skip
    if (← get).head?.all fun c => isBetween c || c = '\x7d' then return []
    let e ← expression (4 * fuel + 4)
    if ← accept "," then return e :: (← expressions fuel) else return [e]

/-- Reads statements up to the closing brace; `fuel` bounds their number. -/
def statements : Nat → Reader (List Statement)
  | 0 => failure
  | fuel + 1 => do
    modify fun t => t.dropWhile isBetween
    if ← accept "\x7d" then return []
    let s ← if ← acceptWord "printf" then pure (.format (← expressions fuel))
      else if ← acceptWord "print" then pure (.print (← expressions fuel))
      else if ← acceptWord "next" then pure .next
      else pure (.evaluate (← expression (4 * fuel + 4)))
    skip
    if (← get).head?.any fun c => isBetween c || c = '\x7d' then return s :: (← statements fuel)
    else failure

/-- Reads the rules of a program; `fuel` bounds their number. -/
def rules : Nat → Reader (List Rule)
  | 0 => failure
  | fuel + 1 => do
    modify fun t => t.dropWhile isBetween
    if (← get) = [] then return []
    let occasion ← if ← acceptWord "BEGIN" then pure .start
      else if ← acceptWord "END" then pure .stop
      else if (← get).head? = some '\x7b' then pure (.line none)
      else pure (.line (some (← expression (4 * fuel + 4))))
    let body? ← if ← accept "\x7b" then pure (some (← statements (fuel + 1))) else pure none
    return ⟨occasion, body?⟩ :: (← rules fuel)

/-- Reads a program. -/
def ofText? (t : Octets) : Option (List Rule) := ((rules (4 * t.length + 8)).run t).map Prod.fst

/-! ## Values -/

/-- A value; a field counts as a number if it is one and nothing else. -/
inductive Value where
  | number (x : Float)
  | text (t : Octets)
  | field (t : Octets)

namespace Value

/-- The number that a value counts as: the one at its start, or zero. -/
def toNumber : Value → Float
  | .number x => x
  | .text t | .field t => ((Number.read? t).map Prod.fst).getD 0

/-- The number that a value is when it is compared, if it is one. -/
def number? : Value → Option Float
  | .number x => some x
  | .text _ => none
  | .field t => match Number.read? t with
    | some (x, rest) => if rest.all (· = ' ') then some x else none
    | none => if t = [] then some 0 else none

/-- The text of a value. -/
def toText : Value → Octets
  | .text t | .field t => t
  | .number x =>
    let sign : Octets := if Number.isNegative x then ['-'] else []
    match Number.quotient? x with
    | some (_, n, d) =>
      if n % d = 0 then (if n = 0 then ['0'] else sign ++ Text.ofNat (n / d))
      else sign ++ Number.render 'g' false 6 x
    | none => sign ++ Number.render 'g' false 6 x

/-- Whether a value counts as true. -/
def isTrue (v : Value) : Bool :=
  match v, v.number? with
  | _, some x => x != 0
  | .text t, none | .field t, none => t ≠ []
  | .number _, none => false

/-- A truth value as a number. -/
def ofBool (b : Bool) : Value := .number (if b then 1 else 0)

/-- How two values compare: as numbers if both are some. -/
def compare (a b : Value) : Ordering :=
  match a.number?, b.number? with
  | some x, some y => if x < y then .lt else if y < x then .gt else .eq
  | _, _ => Ord.compare (a.toText.map Char.toNat) (b.toText.map Char.toNat)

/-- What an operator makes of two values. -/
def combine (a : Value) (o : Operator) (b : Value) : Value :=
  let search (r : Octets) : Bool := ((Regex.ofText? true r).map (·.isMatch a.toText)).getD false
  let x := a.toNumber
  let y := b.toNumber
  match o with
  | .or => ofBool (a.isTrue || b.isTrue)
  | .and => ofBool (a.isTrue && b.isTrue)
  | .matches => ofBool (search b.toText)
  | .matchesNot => ofBool (!search b.toText)
  | .compares accepts => ofBool (accepts.contains (compare a b))
  | .joins => .text (a.toText ++ b.toText)
  | .adds => .number (x + y)
  | .subtracts => .number (x - y)
  | .multiplies => .number (x * y)
  | .divides => .number (x / y)
  | .leaves => .number (x - y * (x / y).toInt64.toFloat)

end Value

/-! ## Running -/

/-- The state of a run: the present line, the variables, and what was printed, the latest first. -/
structure State where
  line : Octets
  count : Nat
  values : List (Octets × Value)
  output : List Octets

/-- The value of a variable; one that is not set is empty. -/
def State.value (s : State) (name : Octets) : Value := (s.values.lookup name).getD (.field [])

/-- The fields of the present line. -/
def State.fields (s : State) : List Octets :=
  match (s.value "FS".toList).toText with
  | [' '] => Octets.words s.line
  | [c] => if s.line = [] then [] else Octets.split c s.line
  | t =>
    match Regex.ofText? true t with
    | none => [s.line]
    | some r =>
      let (ends, start) := (r.findAll s.line (s.line.length + 1) 0).foldl
        (fun (out, start) m => (out ++ [(s.line.drop start).take (m.start - start)], m.stop))
        (([], 0) : List Octets × Nat)
      ends ++ [s.line.drop start]

/-- The value of an expression. -/
def Expression.eval : Expression → StateM State Value
  | .number x => return .number x
  | .text t => return .text t
  | .found r => return .ofBool (r.isMatch (← get).line)
  | .variable name => do
    let s ← get
    match String.ofList name with
    | "NF" => return .number (Float.ofNat s.fields.length)
    | "NR" => return .number (Float.ofNat s.count)
    | _ => return s.value name
  | .field e => do
    let i := (← e.eval).toNumber.toUInt64.toNat
    let s ← get
    return .field (if i = 0 then s.line else (s.fields[i - 1]?).getD [])
  | .set name operator? e => do
    let v ← e.eval
    let old := (← get).value name
    let v := match operator? with
      | some o => old.combine o v
      | none => v
    modify fun s => { s with values := (name, v) :: s.values.filter (·.1 ≠ name) }
    return v
  | .not e => return .ofBool !(← e.eval).isTrue
  | .negative e => return .number (-(← e.eval).toNumber)
  | .binary .matches a (.found r) => return .ofBool (r.isMatch (← a.eval).toText)
  | .binary .matchesNot a (.found r) => return .ofBool !(r.isMatch (← a.eval).toText)
  | .binary o a b => return (← a.eval).combine o (← b.eval)

/-- Runs statements; tells whether the other rules are left out for this line. -/
def runBody : List Statement → StateM State Bool
  | [] => return false
  | .next :: _ => return true
  | .evaluate e :: more => do
    let _ ← e.eval
    runBody more
  | .print es :: more => do
    let values ← (if es = [] then [Expression.field (.number 0)] else es).mapM (·.eval)
    modify fun s =>
      let separator := (s.value "OFS".toList).toText
      { s with output := (Text.join separator (values.map (·.toText)) ++ ['\n']) :: s.output }
    runBody more
  | .format es :: more => do
    match (← es.mapM (·.eval)).map (·.toText) with
    | [] => runBody more
    | format :: arguments =>
      modify fun s =>
        { s with output := (Format.print .program format arguments).1 :: s.output }
      runBody more

/-- Runs the rules of an occasion. -/
def runRules (rules : List Rule) (applies : Occasion → StateM State Bool) : StateM State Unit := do
  let _ ← rules.foldlM (fun (done : Bool) (r : Rule) => do
    if done then return true
    if ← applies r.occasion then runBody (r.body?.getD [.print []]) else return false) false

/-- What a program prints for lines, where some variables are set before. -/
def run (rules : List Rule) (settings : List (Octets × Value)) (lines : List Octets) : Octets :=
  let defaults : List (Octets × Value) := [("FS".toList, .text [' ']), ("OFS".toList, .text [' '])]
  let act : StateM State Unit := do
    runRules rules fun o => return match o with
      | .start => true
      | _ => false
    for l in lines do
      modify fun s => { s with line := l, count := s.count + 1 }
      runRules rules fun o => match o with
        | .line none => return true
        | .line (some e) => return (← e.eval).isTrue
        | _ => return false
    runRules rules fun o => return match o with
      | .stop => true
      | _ => false
  ((act.run ⟨[], 0, settings.reverse ++ defaults, []⟩).2.output).reverse.flatten

end Awk

namespace Tool

/-- Runs a program on records. -/
def awk (c : Call) : Reply :=
  c.withArguments "" "Fv" 2 fun a =>
    match a.rest, (a.rest.head?).bind Awk.ofText? with
    | [], _ => c.usage "missing program".toList 2
    | t :: _, none => c.refuse ("syntax error in ".toList ++ Quoting.text t) 2
    | _ :: paths, some rules =>
      let settings := (a.values.filter (·.1 = 'v')).map fun (_, t) =>
        (t.takeWhile (· ≠ '='), Awk.Value.field ((t.dropWhile (· ≠ '=')).drop 1))
      let separator := (a.value? 'F').toList.map fun t => ("FS".toList, Awk.Value.text t)
      let reads := rules.any fun r => match r.occasion with
        | .start => false
        | _ => true
      let (found, complaints) := if reads then c.sources paths else ([], [])
      ⟨Awk.run rules (separator ++ settings) (found.flatMap fun f => Octets.lines f.2), complaints,
        if complaints = [] then 0 else 2, c.files, if reads then Call.needOf paths else .nothing⟩

end Tool
end Doctest
