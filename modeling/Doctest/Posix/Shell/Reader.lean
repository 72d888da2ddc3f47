/-
# Reading commands

A script is read a line at a time, so that what stands before a mistake is run.  Inside double
quotation marks a backslash counts only before `$`, a backquote, `"`, a backslash and a line feed;
the body of a document that a redirection asks for is taken out of the script when the redirection
is read.  The end of a substitution `$(…)` is where the commands in it end, so that they are read as
commands at once; their meaning is found when the substitution is expanded.
-/

import Doctest.Posix.Shell.Grammar

namespace Doctest
namespace Shell

/-- A place in a script: what is left, the number of the line, and how many lines the next line feed
counts for besides its own. -/
structure Cursor where
  rest : Octets
  line : Nat
  owed : Nat

/-- What is wrong with a script. -/
inductive Flaw where
  | unexpected (found : Octets) (expected? : Option Octets)
  | openString
  | openBackquote
  | openBrace
  | openArithmetic
  | badSubstitution
  | badLoopVariable
  | tooDeep
deriving DecidableEq, Repr

/-- The message on a flaw. -/
def Flaw.message : Flaw → Octets
  | .unexpected found expected? =>
    "Syntax error: ".toList ++ found ++ " unexpected".toList ++ match expected? with
      | some t => " (expecting \"".toList ++ t ++ "\")".toList
      | none => []
  | .openString => "Syntax error: Unterminated quoted string".toList
  | .openBackquote => "Syntax error: EOF in backquote substitution".toList
  | .openBrace => "Syntax error: Missing '\x7d'".toList
  | .openArithmetic => "Syntax error: Missing '))'".toList
  | .badSubstitution => "Bad substitution".toList
  | .badLoopVariable => "Syntax error: Bad for loop variable".toList
  | .tooDeep => "Syntax error: nesting too deep".toList

/-- A flaw and the line where it was found. -/
structure Mistake where
  flaw : Flaw
  line : Nat
deriving DecidableEq, Repr

/-- Reading something from a script. -/
abbrev Reader := StateT Cursor (Except Mistake)

namespace Reader

/-! ## Bytes, blanks and words that are part of the grammar -/

/-- The rest of the script. -/
def rest : Reader Octets := do return (← get).rest

/-- Goes on by some bytes. -/
def advance (n : Nat) : Reader Unit := modify fun c =>
  let feeds := (c.rest.take n).count '\n'
  { c with
    rest := c.rest.drop n
    line := c.line + feeds + (if feeds = 0 then 0 else c.owed)
    owed := if feeds = 0 then c.owed else 0 }

/-- Whether a byte ends a word. -/
def endsWord (c : Char) : Bool :=
  c = ' ' || c = '\t' || c = '\n' || c = ';' || c = '&' || c = '|' || c = '<' || c = '>' ||
    c = '(' || c = ')'

/-- The number of bytes of blanks, joined lines and a comment at the start of a text. -/
def blankLength : Octets → Nat
  | ' ' :: t | '\t' :: t => blankLength t + 1
  | '\\' :: '\n' :: t => blankLength t + 2
  | '#' :: t => (t.takeWhile (· ≠ '\n')).length + 1
  | _ => 0

/-- Skips blanks. -/
def skipBlanks : Reader Unit := do advance (blankLength (← rest))

/-- Skips blanks and line feeds; `fuel` bounds the line feeds. -/
def skipLines : Nat → Reader Unit
  | 0 => skipBlanks
  | fuel + 1 => do
    skipBlanks
    if (← rest).head? = some '\n' then
      advance 1
      skipLines fuel

/-- Skips blanks and line feeds. -/
def skipSpace : Reader Unit := do skipLines (← rest).length

/-- Whether the script goes on with the given text; if so, it is skipped. -/
def accept (t : String) : Reader Bool := do
  if Text.startsWith t.toList (← rest) then
    advance t.length
    return true
  else return false

/-- The unquoted text up to the end of the word. -/
def bareWord : Reader Octets := do return (← rest).takeWhile fun c => !endsWord c

/-- Whether the script goes on with the given word of the grammar; if so, it is skipped, with the
blanks before it. -/
def acceptWord (w : String) : Reader Bool := do
  skipBlanks
  if (← bareWord) = w.toList then
    advance w.length
    return true
  else return false

/-- Ends with a flaw that was found here. -/
def fail {α : Type} (flaw : Flaw) : Reader α := do throw ⟨flaw, (← get).line⟩

/-- Ends with a flaw that was found at the end of the script. -/
def failAtEnd {α : Type} (flaw : Flaw) : Reader α := do
  let c ← get
  throw ⟨flaw, c.line + c.rest.count '\n'⟩

/-- The words of the grammar. -/
def grammarWords : List Octets :=
  List.map String.toList ["if", "then", "else", "elif", "fi", "for", "while", "until", "do", "done",
    "case", "esac", "\x7b", "\x7d", "!"]

/-- How what stands at the start of a text is named. -/
def described (t : Octets) : Octets :=
  let quoted (t : Octets) : Octets := ['"'] ++ t ++ ['"']
  match t with
  | [] => "end of file".toList
  | '\n' :: _ => "newline".toList
  | '<' :: _ | '>' :: _ => "redirection".toList
  | ';' :: ';' :: _ => quoted ";;".toList
  | '&' :: '&' :: _ => quoted "&&".toList
  | '|' :: '|' :: _ => quoted "||".toList
  | c :: _ =>
    let word := t.takeWhile (!endsWord ·)
    if endsWord c then quoted [c] else if grammarWords.contains word then quoted word
    else "word".toList

/-- Refuses what stands here. -/
def refuse {α : Type} (expected? : Option String) : Reader α := do
  skipBlanks
  fail (.unexpected (described (← rest)) (expected?.map String.toList))

/-- Skips a word of the grammar that has to stand here. -/
def expectWord (w : String) : Reader Unit := do
  if ← acceptWord w then return () else refuse (some w)

/-! ## Words -/

/-- The text up to the end of a single-quoted one, and what follows. -/
def singleQuoted? (t : Octets) : Option (Octets × Octets) :=
  let body := t.takeWhile (· ≠ '\'')
  match t.drop body.length with
  | _ :: after => some (body, after)
  | [] => none

/-- Something that has been opened inside an expansion. -/
inductive Opening where
  | parenthesis
  | brace (quoted : Bool)
  | quotation
deriving DecidableEq, Repr

/-- The byte that closes an opening. -/
def Opening.closing : Opening → Char
  | .parenthesis => ')'
  | .brace _ => '\x7d'
  | .quotation => '"'

/-- Whether a single quotation mark stands for itself. -/
def Opening.isQuoted : Opening → Bool
  | .parenthesis => false
  | .brace quoted => quoted
  | .quotation => true

/-- The length of a text up to the byte that closes the last of the openings; `fuel` bounds it. -/
def balancedLength? : Nat → List Opening → Octets → Option Nat
  | 0, _, _ | _ + 1, _, [] | _ + 1, [], _ => none
  | fuel + 1, o :: os, c :: t =>
    let more (n : Nat) (os : List Opening) : Option Nat :=
      (balancedLength? fuel os (t.drop n)).map (· + n + 1)
    if c = o.closing then (if os = [] then some 0 else more 0 os)
    else if c = '\\' then more 1 (o :: os)
    else if c = '\'' && !o.isQuoted then
      match singleQuoted? t with
      | some (body, _) => more (body.length + 1) (o :: os)
      | none => none
    else if c = '"' then more 0 (.quotation :: o :: os)
    else if c = '(' && o = .parenthesis then more 0 (.parenthesis :: o :: os)
    else if c = '$' && t.head? = some '(' then more 1 (.parenthesis :: o :: os)
    else if c = '$' && t.head? = some '\x7b' then more 1 (.brace o.isQuoted :: o :: os)
    else more 0 (o :: os)

/-- Takes the text up to the byte that closes an opening already read. -/
def balanced (o : Opening) (flaw : Flaw) : Reader Octets := do
  let t ← rest
  match balancedLength? (t.length + 1) [o] t with
  | some n =>
    advance (n + 1)
    return t.take n
  | none => failAtEnd flaw

/-- The treatment that follows the name in braces. -/
def treatment? : Octets → Option Treatment
  | [] => some .plain
  | ':' :: '-' :: w => some (.default true w)
  | '-' :: w => some (.default false w)
  | ':' :: '=' :: w => some (.assign true w)
  | '=' :: w => some (.assign false w)
  | ':' :: '?' :: w => some (.require true w)
  | '?' :: w => some (.require false w)
  | ':' :: '+' :: w => some (.alternative true w)
  | '+' :: w => some (.alternative false w)
  | '#' :: '#' :: w => some (.dropStart true w)
  | '#' :: w => some (.dropStart false w)
  | '%' :: '%' :: w => some (.dropEnd true w)
  | '%' :: w => some (.dropEnd false w)
  | _ => none

/-- Whether a byte names a parameter by itself. -/
def isSpecial (c : Char) : Bool :=
  c = '@' || c = '*' || c = '#' || c = '?' || c = '-' || c = '$' || c = '!' || c = '0'

/-- The name at the start of a text in braces. -/
def parameterName (t : Octets) : Octets :=
  match t with
  | [] => []
  | c :: _ =>
    if startsName c then t.takeWhile inName
    else if Octets.isDigit c then t.takeWhile Octets.isDigit
    else if isSpecial c then [c] else []

/-- The parameter that a text in braces speaks of. -/
def braced (quoted : Bool) (t : Octets) : Reader Part := do
  let name := parameterName t
  match t with
  | '#' :: c :: more =>
    let inner := parameterName (c :: more)
    if inner ≠ [] && inner.length = (c :: more).length then
      return .parameter inner .length quoted
  | _ => pure ()
  match treatment? (t.drop name.length) with
  | some use => if name = [] then fail .badSubstitution else return .parameter name use quoted
  | none => fail .badSubstitution

/-- The text of commands up to the closing parenthesis, which is skipped.  Where a document is asked
for that only comes after the parenthesis, the text up to the parenthesis that balances. -/
def substituted (commands : Reader Unit) : Reader Octets := do
  let start ← get
  commands
  skipSpace
  if !(← accept ")") then refuse (some ")")
  let after ← rest
  let n := start.rest.length - after.length
  if start.rest.drop n = after then return start.rest.take (n - 1)
  else
    set start
    balanced .parenthesis (.unexpected "end of file".toList (some [')']))

/-- The part that starts with a dollar sign, which has been read.  Here and below, `commands` reads
commands up to a closing parenthesis. -/
def dollar (commands : Reader Unit) (quoted : Bool) : Reader Part := do
  match ← rest with
  | '(' :: '(' :: _ =>
    advance 2
    let source ← balanced .parenthesis .openArithmetic
    if ← accept ")" then return .arithmetic source quoted else failAtEnd .openArithmetic
  | '(' :: _ =>
    advance 1
    return .command (← substituted commands) quoted
  | '\x7b' :: _ =>
    advance 1
    braced quoted (← balanced (.brace quoted) .openBrace)
  | c :: t =>
    if startsName c then
      let name := (c :: t).takeWhile inName
      advance name.length
      return .parameter name .plain quoted
    else if isSpecial c || Octets.isDigit c then
      advance 1
      return .parameter [c] .plain quoted
    else return .text ['$'] quoted
  | [] => return .text ['$'] quoted

/-- The text up to a closing backquote and its length; inside, a backslash keeps `$`, a backquote,
a backslash and, between double quotation marks, one of these from being read. -/
def backquoted? (quoted : Bool) : Octets → Option (Octets × Nat)
  | [] => none
  | '\x60' :: _ => some ([], 1)
  | '\\' :: c :: t => (backquoted? quoted t).map fun (a, n) =>
      let kept : Bool := c = '$' || c = '\x60' || c = '\\' || (quoted && c = '"')
      (if kept then c :: a else '\\' :: c :: a, n + 2)
  | c :: t => (backquoted? quoted t).map fun (a, n) => (c :: a, n + 1)

/-- The command between backquotes, the first of which has been read. -/
def backquote (commands : Reader Unit) (quoted : Bool) : Reader Part := do
  match backquoted? quoted (← rest) with
  | some (source, n) =>
    advance n
    let after ← get
    set { after with rest := source, line := 1, owed := 0 }
    commands
    set after
    return .command source quoted
  | none => failAtEnd .openBackquote

/-- The parts up to a closing double quotation mark, or, for `ends = none`, to the end of the text.
`fuel` bounds their number. -/
def doubleQuoted (commands : Reader Unit) (ends : Option Char) : Nat → Reader Word
  | 0 => fail .tooDeep
  | fuel + 1 => do
    match ← rest with
    | [] => if ends.isNone then return [] else failAtEnd .openString
    | c :: t =>
      advance 1
      if some c = ends then return []
      else if c = '\\' then
        match t with
        | '\n' :: _ =>
          advance 1
          doubleQuoted commands ends fuel
        | d :: _ =>
          if d = '$' || d = '\x60' || d = '\\' || some d = ends then
            advance 1
            return .text [d] true :: (← doubleQuoted commands ends fuel)
          else return .text ['\\'] true :: (← doubleQuoted commands ends fuel)
        | [] => return [.text ['\\'] true]
      else if c = '$' then
        let part ← dollar commands true
        return part :: (← doubleQuoted commands ends fuel)
      else if c = '\x60' then
        let part ← backquote commands true
        return part :: (← doubleQuoted commands ends fuel)
      else
        let run := c :: t.takeWhile fun d => d ≠ '\\' && d ≠ '$' && d ≠ '\x60' && some d ≠ ends
        advance (run.length - 1)
        return .text run true :: (← doubleQuoted commands ends fuel)

/-- Whether a part stands for all arguments, so that it may stand for none. -/
def isAll : Part → Bool
  | .parameter ['@'] .plain _ => true
  | _ => false

/-- The parts of a word up to a byte of `stops`; `fuel` bounds their number. -/
def parts (commands : Reader Unit) (stops : Char → Bool) : Nat → Reader Word
  | 0 => fail .tooDeep
  | fuel + 1 => do
    match ← rest with
    | [] => return []
    | c :: t =>
      if stops c then return []
      advance 1
      if c = '\'' then
        match singleQuoted? t with
        | some (body, _) =>
          advance (body.length + 1)
          return .text body true :: (← parts commands stops fuel)
        | none => failAtEnd .openString
      else if c = '"' then
        let inner ← doubleQuoted commands (some '"') (t.length + 1)
        let mark : Word := if inner.any isAll then [] else [.text [] true]
        return mark ++ inner ++ (← parts commands stops fuel)
      else if c = '\\' then
        match t with
        | '\n' :: _ =>
          advance 1
          parts commands stops fuel
        | d :: _ =>
          advance 1
          return .text [d] true :: (← parts commands stops fuel)
        | [] => return [.text ['\\'] true]
      else if c = '$' then
        let part ← dollar commands false
        return part :: (← parts commands stops fuel)
      else if c = '\x60' then
        let part ← backquote commands false
        return part :: (← parts commands stops fuel)
      else
        let run := c :: t.takeWhile fun d =>
          !stops d && d ≠ '\'' && d ≠ '"' && d ≠ '\\' && d ≠ '$' && d ≠ '\x60'
        advance (run.length - 1)
        return .text run false :: (← parts commands stops fuel)

/-- A word, if one stands here. -/
def word? (commands : Reader Unit) : Reader (Option Word) := do
  skipBlanks
  let t ← rest
  match t with
  | [] => return none
  | c :: _ =>
    if endsWord c then return none
    else return some (← parts commands endsWord (t.length + 1))

/-! ## Redirections -/

/-- The text of a word without its quotation marks. -/
def plainText (w : Word) : Octets := w.flatMap fun p => match p with
  | .text t _ => t
  | _ => []

/-- Whether nothing of a word is quoted. -/
def isBare (w : Word) : Bool := w.all fun p => match p with
  | .text _ quoted => !quoted
  | _ => true

/-- The lines up to the delimiter, how many these are with it, and the lines after it. -/
def documentLines (delimiter : Octets) (dropsTabs : Bool) :
    List Octets → List Octets × Nat × List Octets
  | [] => ([], 0, [])
  | l :: ls =>
    let l := if dropsTabs then l.dropWhile (· = '\t') else l
    if Text.dropEnd ['\n'] l = delimiter then ([], 1, ls)
    else
      let (body, n, after) := documentLines delimiter dropsTabs ls
      (l :: body, n + 1, after)

/-- Takes the document up to the delimiter out of the lines after the present one. -/
def takeDocument (delimiter : Octets) (dropsTabs : Bool) : Reader Octets := do
  let t ← rest
  let present := t.takeWhile (· ≠ '\n')
  let (body, n, after) :=
    documentLines delimiter dropsTabs (Text.rawLines (t.drop (present.length + 1)))
  modify fun c => { c with rest := present ++ '\n' :: after.flatten, owed := c.owed + n }
  return body.flatten

/-- The parts of a text in which only expansions count. -/
def expandingText (commands : Reader Unit) (t : Octets) : Except Mistake Word :=
  (doubleQuoted commands none (t.length + 1)).run' ⟨t, 1, 0⟩

/-- The word after the sign of a redirection. -/
def targetWord (commands : Reader Unit) : Reader Word := do
  match ← word? commands with
  | some w => return w
  | none => refuse none

/-- A redirection, if one stands here. -/
def redirection? (commands : Reader Unit) : Reader (Option Redirection) := do
  skipBlanks
  let t ← rest
  let digits := t.takeWhile Octets.isDigit
  match t.drop digits.length with
  | '<' :: _ =>
    advance (digits.length + 1)
    let stream := (Octets.nat? digits).getD 0
    if ← accept "<-" then return some ⟨stream, .document (← document true)⟩
    else if ← accept "<" then return some ⟨stream, .document (← document false)⟩
    else if ← accept "&" then return some ⟨stream, .stream (← targetWord commands)⟩
    else if ← accept ">" then return some ⟨stream, .both (← targetWord commands)⟩
    else return some ⟨stream, .input (← targetWord commands)⟩
  | '>' :: _ =>
    advance (digits.length + 1)
    let stream := (Octets.nat? digits).getD 1
    if ← accept ">" then return some ⟨stream, .append (← targetWord commands)⟩
    else if ← accept "&" then return some ⟨stream, .stream (← targetWord commands)⟩
    else if ← accept "|" then return some ⟨stream, .output (← targetWord commands) true⟩
    else return some ⟨stream, .output (← targetWord commands) false⟩
  | _ => return none
where
  /-- The document that a redirection asks for. -/
  document (dropsTabs : Bool) : Reader Word := do
    let delimiter ← targetWord commands
    let body ← takeDocument (plainText delimiter) dropsTabs
    if isBare delimiter then
      match expandingText commands body with
      | .ok w => return w
      | .error e => throw e
    else return [.text body true]

/-- All redirections that stand here; `fuel` bounds their number. -/
def redirections (commands : Reader Unit) : Nat → Reader (List Redirection)
  | 0 => return []
  | fuel + 1 => do
    match ← redirection? commands with
    | some r => return r :: (← redirections commands fuel)
    | none => return []

/-! ## Commands -/

/-- The assignment that a word states. -/
def assignment? (w : Word) : Option Assignment :=
  match w with
  | .text t false :: more =>
    let name := t.takeWhile (· ≠ '=')
    match t.drop name.length with
    | _ :: value => if isName name then some ⟨name, .text value false :: more⟩ else none
    | [] => none
  | _ => none

/-- The rest of a simple command; `fuel` bounds its words. -/
def simpleRest (commands : Reader Unit) : Nat → Simple → Reader Simple
  | 0, c => return c
  | fuel + 1, c => do
    match ← redirection? commands with
    | some r => simpleRest commands fuel { c with redirections := c.redirections ++ [r] }
    | none =>
      match ← word? commands with
      | none => return c
      | some w =>
        match if c.words = [] then assignment? w else none with
        | some a => simpleRest commands fuel { c with assignments := c.assignments ++ [a] }
        | none => simpleRest commands fuel { c with words := c.words ++ [w] }

/-- A simple command. -/
def simple (commands : Reader Unit) : Reader Command := do
  skipBlanks
  let c ← simpleRest commands (← rest).length ⟨(← get).line, [], [], []⟩
  if c.words = [] && c.assignments = [] && c.redirections = [] then refuse none
  else return .simple c

/-- The name of a function whose definition starts here; it is skipped. -/
def definition? : Reader (Option Octets) := do
  skipBlanks
  let t ← rest
  let name := t.takeWhile inName
  let after := (t.drop name.length).dropWhile (· = ' ')
  match after with
  | '(' :: more =>
    match more.dropWhile (· = ' ') with
    | ')' :: body =>
      if isName name then
        advance (t.length - body.length)
        return some name
      else return none
    | _ => return none
  | _ => return none

/-- The words that close a part of a command. -/
def closers : List Octets :=
  ["then".toList, "else".toList, "elif".toList, "fi".toList, "do".toList, "done".toList,
    "esac".toList, "\x7d".toList]

/-- Whether nothing more of a list stands here. -/
def atEnd : Reader Bool := do
  skipBlanks
  match ← rest with
  | [] | ')' :: _ | ';' :: ';' :: _ => return true
  | _ => return closers.contains (← bareWord)

/-- The words of a loop up to the end of the line; `fuel` bounds their number. -/
def loopWords (commands : Reader Unit) : Nat → Reader (List Word)
  | 0 => return []
  | fuel + 1 => do
    match ← word? commands with
    | some w => return w :: (← loopWords commands fuel)
    | none => return []

/-- The patterns of a clause, up to the closing parenthesis; `fuel` bounds their number. -/
def patterns (commands : Reader Unit) : Nat → Reader (List Word)
  | 0 => fail .tooDeep
  | fuel + 1 => do
    let w ← targetWord commands
    skipBlanks
    if ← accept "|" then return w :: (← patterns commands fuel)
    else if ← accept ")" then return [w]
    else refuse (some ")")

mutual

/-- Commands up to the end of a part, over several lines.  What cannot follow a command ends the
part. -/
def commands : Nat → Reader Command
  | 0 => fail .tooDeep
  | fuel + 1 => do
    skipSpace
    if ← atEnd then return .nothing
    let a ← line fuel false
    match ← rest with
    | '\n' :: _ =>
      let b ← commands fuel
      return if b = .nothing then a else .sequence a b
    | _ => return a

/-- Goes behind commands. -/
def skipping : Nat → Reader Unit
  | 0 => fail .tooDeep
  | fuel + 1 => do
    let _ ← commands fuel

/-- The same where there has to be one before the script goes on. -/
def someCommands : Nat → Reader Command
  | 0 => fail .tooDeep
  | fuel + 1 => do
    let a ← commands fuel
    if a = .nothing && (← rest) ≠ [] then refuse none else return a

/-- Commands up to the end of a line, which is skipped at the `top`.  There nothing but the end of
the script ends the line early. -/
def line : Nat → Bool → Reader Command
  | 0, _ => fail .tooDeep
  | fuel + 1, top => do
    let a ← joined fuel
    skipBlanks
    match ← rest with
    | ';' :: ';' :: _ => if top then refuse none else return a
    | ';' :: _ =>
      advance 1
      more fuel top a
    | '&' :: _ =>
      advance 1
      more fuel top (.background a)
    | '\n' :: _ =>
      if top then advance 1
      return a
    | [] => return a
    | _ => if top then refuse none else return a

/-- What follows a command on the same line. -/
def more : Nat → Bool → Command → Reader Command
  | 0, _, _ => fail .tooDeep
  | fuel + 1, top, a => do
    skipBlanks
    match ← rest with
    | '\n' :: _ =>
      if top then advance 1
      return a
    | [] => return a
    | _ => if !top && (← atEnd) then return a else return .sequence a (← line fuel top)

/-- Pipelines joined by `&&` and `||`. -/
def joined : Nat → Reader Command
  | 0 => fail .tooDeep
  | fuel + 1 => do joinedTo fuel (← pipeline fuel)

/-- What is joined to a pipeline. -/
def joinedTo : Nat → Command → Reader Command
  | 0, _ => fail .tooDeep
  | fuel + 1, a => do
    skipBlanks
    if ← accept "&&" then
      skipSpace
      joinedTo fuel (.and a (← pipeline fuel))
    else if ← accept "||" then
      skipSpace
      joinedTo fuel (.or a (← pipeline fuel))
    else return a

/-- Commands joined by `|`, perhaps negated. -/
def pipeline : Nat → Reader Command
  | 0 => fail .tooDeep
  | fuel + 1 => do
    if ← acceptWord "!" then return .not (← pipeline fuel)
    let a ← command fuel
    skipBlanks
    match ← rest with
    | '|' :: '|' :: _ => return a
    | '|' :: _ =>
      advance 1
      skipSpace
      return .pipe a (← pipeline fuel)
    | _ => return a

/-- A single command with its redirections. -/
def command : Nat → Reader Command
  | 0 => fail .tooDeep
  | fuel + 1 => do
    match ← compound? fuel with
    | some a =>
      let rs ← redirections (skipping fuel) (← rest).length
      return if rs = [] then a else .redirected a rs
    | none =>
      if closers.contains (← bareWord) then refuse none
      match ← definition? with
      | some name =>
        skipSpace
        return .define name (← command fuel)
      | none => simple (skipping fuel)

/-- A command put together from others, if one stands here. -/
def compound? : Nat → Reader (Option Command)
  | 0 => fail .tooDeep
  | fuel + 1 => do
    skipBlanks
    if ← accept "(" then
      let a ← someCommands fuel
      skipSpace
      if ← accept ")" then return some (.subshell a) else refuse (some ")")
    else if ← acceptWord "\x7b" then
      let a ← someCommands fuel
      skipSpace
      expectWord "\x7d"
      return some a
    else if ← acceptWord "if" then return some (← conditional fuel)
    else if ← acceptWord "while" then return some (← loop fuel false)
    else if ← acceptWord "until" then return some (← loop fuel true)
    else if ← acceptWord "for" then
      skipBlanks
      let name ← bareWord
      if !isName name then fail .badLoopVariable
      advance name.length
      skipSpace
      let words? ←
        if ← acceptWord "in" then some <$> loopWords (skipping fuel) (← rest).length else pure none
      skipBlanks
      let _ ← accept ";"
      skipSpace
      return some (.each name words? (← body fuel))
    else if ← acceptWord "case" then
      let value ← targetWord (skipping fuel)
      skipSpace
      expectWord "in"
      return some (.choice value (← clauses fuel))
    else return none

/-- What follows `if` or `elif`. -/
def conditional : Nat → Reader Command
  | 0 => fail .tooDeep
  | fuel + 1 => do
    let condition ← someCommands fuel
    skipSpace
    expectWord "then"
    let yes ← someCommands fuel
    skipSpace
    if ← acceptWord "elif" then return .conditional condition yes (← conditional fuel)
    else if ← acceptWord "else" then
      let no ← someCommands fuel
      skipSpace
      expectWord "fi"
      return .conditional condition yes no
    else
      expectWord "fi"
      return .conditional condition yes .nothing

/-- What follows `while` or `until`. -/
def loop : Nat → Bool → Reader Command
  | 0, _ => fail .tooDeep
  | fuel + 1, until_ => do
    let condition ← someCommands fuel
    skipSpace
    return .loop until_ condition (← body fuel)

/-- The commands between `do` and `done`. -/
def body : Nat → Reader Command
  | 0 => fail .tooDeep
  | fuel + 1 => do
    expectWord "do"
    let a ← someCommands fuel
    skipSpace
    expectWord "done"
    return a

/-- The clauses up to `esac`. -/
def clauses : Nat → Reader Command
  | 0 => fail .tooDeep
  | fuel + 1 => do
    skipSpace
    if ← acceptWord "esac" then return .nothing
    let _ ← accept "("
    let ws ← patterns (skipping fuel) (← rest).length
    let a ← commands fuel
    skipSpace
    if ← accept ";;" then return .clause ws a (← clauses fuel)
    else if ← acceptWord "esac" then return .clause ws a .nothing
    else refuse (some ";;")

end

/-- The parts of a word that an expansion holds. -/
def operand (quoted : Bool) (t : Octets) : Except Mistake Word :=
  let commands := skipping (16 * t.length + 64)
  if quoted then
    (doubleQuoted commands none (t.length + 1)).run' ⟨t.filter (· ≠ '"'), 1, 0⟩
  else (parts commands (fun _ => false) (t.length + 1)).run' ⟨t, 1, 0⟩

/-- The commands of the next line of a script that has any, and the place after it. -/
def next? (c : Cursor) : Except Mistake (Option (Command × Cursor)) :=
  let read : Reader (Option Command) := do
    skipSpace
    if (← rest) = [] then return none
    else return some (← line (16 * c.rest.length + 64) true)
  match read.run c with
  | .ok (some a, c) => .ok (some (a, c))
  | .ok (none, _) => .ok none
  | .error e => .error e

/-- The place at the start of a script that itself starts at a line.  NUL bytes do not count. -/
def startAt (line : Nat) (t : Octets) : Cursor := ⟨t.filter (· ≠ '\x00'), line, 0⟩

end Reader
end Shell
end Doctest
