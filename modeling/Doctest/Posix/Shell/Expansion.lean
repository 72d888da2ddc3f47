/-
# Expansion of words

A word is expanded to scraps, and these are cut into fields:

| scrap | comes from | |
| --- | --- | --- |
| a byte that splits | an unquoted expansion | ends a field if it is in `IFS` |
| a byte | anything else | belongs to a field |
| a gap | between two arguments of `$@` | ends a field |
| a presence | quotation marks | starts a field, even an empty one |

An unquoted byte is live: a field with live wildcards becomes the paths that it matches, if there
are any.
-/

import Doctest.Posix.Run
import Doctest.Posix.Pattern
import Doctest.Posix.Shell.Reader
import Doctest.Posix.Shell.Arithmetic

namespace Doctest
namespace Shell

/-- A piece of an expanded word. -/
inductive Scrap where
  | byte (g : Glyph) (splits : Bool)
  | gap
  | presence
deriving DecidableEq, Repr

/-- A field: bytes that may still be wildcards. -/
abbrev Field := List Glyph

namespace Expansion

/-- The bytes of scraps that are not to be split. -/
def glyphs (ss : List Scrap) : Field := ss.filterMap fun s => match s with
  | .byte g _ => some g
  | _ => none

/-- The text of scraps that are not to be split. -/
def text (ss : List Scrap) : Octets := (glyphs ss).map (·.char)

/-! ## Cutting into fields -/

/-- The fields cut off so far, the latest first, the one that is being put together, its latest byte
first, and whether white space ended the last one. -/
structure Cut where
  fields : List Field
  present? : Option Field
  afterBlank : Bool

/-- Ends the field that is being put together. -/
def Cut.close (c : Cut) (afterBlank : Bool) : Cut :=
  match c.present? with
  | some f => ⟨f.reverse :: c.fields, none, afterBlank⟩
  | none => { c with afterBlank := c.afterBlank }

/-- One more scrap. -/
def Cut.add (separators : Octets) (c : Cut) : Scrap → Cut
  | .gap => { c.close false with afterBlank := false }
  | .presence => { c with present? := some (c.present?.getD []) }
  | .byte g splits =>
    if splits && separators.any (· = g.char) then
      if g.char = ' ' || g.char = '\t' || g.char = '\n' then c.close true
      else match c.present? with
        | some _ => { c.close false with afterBlank := false }
        | none => if c.afterBlank then { c with afterBlank := false }
          else ⟨[] :: c.fields, none, false⟩
    else ⟨c.fields, some (g :: c.present?.getD []), false⟩

/-- The fields of an expanded word. -/
def fields (separators : Octets) (ss : List Scrap) : List Field :=
  ((ss.foldl (Cut.add separators) ⟨[], none, false⟩).close false).fields.reverse

/-! ## Paths that match -/

/-- The segments of a field between slashes. -/
def segments (f : Field) : List Field :=
  f.foldr (fun g acc =>
    if g.char = '/' then [] :: acc
    else match acc with
      | s :: ss => (g :: s) :: ss
      | [] => [[g]]) [[]]

/-- The paths that start with `before` and go on as the segments ask for. -/
def matchingPaths (files : Files) (cwd : Place) : Octets → List Field → List Octets
  | before, [] => if (files.find? cwd before).isSome then [before] else []
  | before, s :: ss =>
    let join (name : Octets) : Octets := if ss = [] then before ++ name else before ++ name ++ ['/']
    if Pattern.isWild s then
      let here := if before = [] then ['.'] else before
      match files.walk cwd here with
      | .ok (.found place .directory) =>
        let hidden := s.head?.any (·.char = '.')
        let names := (['.'] :: ['.', '.'] :: files.names place).filter fun n =>
          (hidden || n.head? ≠ some '.') && (Pattern.ofGlyphs s).isMatch n
        names.flatMap fun n => matchingPaths files cwd (join n) ss
      | _ => []
    else matchingPaths files cwd (join (s.map (·.char))) ss

/-- What becomes of a field: the paths that it matches, or its own text. -/
def paths (files : Files) (cwd : Place) (f : Field) : List Octets :=
  if Pattern.isWild f then
    match matchingPaths files cwd [] (segments f) with
    | [] => [f.map (·.char)]
    | found => found
  else [f.map (·.char)]

/-! ## Parameters -/

/-- The value of a parameter, if it has one. -/
def parameter? (name : Octets) : Run (Option Octets) := do
  let s ← Run.shell
  let separator : Octets := match s.valueOf? "IFS".toList with
    | some v => v.take 1
    | none => [' ']
  match Octets.nat? name with
  | some 0 => return some s.name
  | some n => return s.positional[n - 1]?
  | none =>
    match name with
    | ['#'] => return some (Text.ofNat s.positional.length)
    | ['?'] => return some (Text.ofNat s.status)
    | ['$'] => return some (Text.ofNat s.mainPid)
    | ['!'] => return s.latestJob?.map Text.ofNat
    | ['-'] => return some s.flags
    | ['@'] => return if s.positional = [] then none else some (Text.join [' '] s.positional)
    | ['*'] => return if s.positional = [] then none else some (Text.join separator s.positional)
    | _ => Run.valueOf? name

/-- The scraps of a value. -/
def valueScraps (quoted : Bool) (t : Octets) : List Scrap :=
  (if quoted then [.presence] else []) ++ t.map fun c => .byte ⟨c, !quoted⟩ (!quoted)

/-- The scraps of all arguments, each a field of its own. -/
def argumentScraps (quoted : Bool) (args : List Octets) : List Scrap :=
  List.intercalate [.gap] (args.map (valueScraps quoted))

/-- Ends the shell with a complaint. -/
def fail {α : Type} (message : Octets) : Run α := do
  Run.complain message
  Run.leave (.exit 2)

/-- A word that an expansion holds, as it was written. -/
def operandWord (quoted : Bool) (t : Octets) : Run Word :=
  match Reader.operand quoted t with
  | .ok w => return w
  | .error e => fail e.flaw.message

/-- The scraps of a word; `substitute` gives the output of a command, and `fuel` bounds the parts
and their nesting. -/
def scraps (substitute : Octets → Run Octets) : Nat → Word → Run (List Scrap)
  | 0, _ | _ + 1, [] => return []
  | fuel + 1, part :: parts => do
    let first ← match part with
      | .text t quoted =>
        pure ((if quoted then [.presence] else []) ++ t.map fun c => .byte ⟨c, !quoted⟩ false)
      | .command source quoted => do pure (valueScraps quoted (← substitute source))
      | .arithmetic source quoted => do
        let w ← operandWord true source
        let t := text (← scraps substitute fuel w)
        let s ← Run.shell
        let look (name : Octets) : Except Octets Int :=
          match s.valueOf? name with
          | none | some [] => .ok 0
          | some v => match Format.number? v with
            | some (n, rest) => if rest.all (· = ' ') then .ok n else .error v
            | none => .error v
        match Arithmetic.evaluate look t with
        | .ok (n, assigned) =>
          for (name, value) in assigned.reverse do Run.assign name (Text.ofInt value)
          pure (valueScraps quoted (Text.ofInt n))
        | .error (.notNumber v) => fail (Arithmetic.Failure.notNumber v).message
        | .error e =>
          fail ("arithmetic expression: ".toList ++ e.message ++ ": \"".toList ++ t ++ ['"'])
      | .parameter name treatment quoted => do
        let value? ← parameter? name
        let operand (t : Octets) : Run (List Scrap) := do
          let ss ← scraps substitute fuel (← operandWord quoted t)
          return (if quoted then [.presence] else []) ++ ss.map fun s => match s with
            | .byte g splits => .byte g (splits || (!quoted && g.live))
            | s => s
        let pattern (t : Octets) : Run Pattern := do
          return .ofGlyphs (glyphs (← scraps substitute fuel (← operandWord false t)))
        let missing (orEmpty : Bool) : Bool := value?.isNone || (orEmpty && value? = some [])
        let own : Run (List Scrap) := do
          let s ← Run.shell
          if name = ['@'] || (name = ['*'] && !quoted) then
            return argumentScraps quoted s.positional
          else
            if value?.isNone && s.flags.contains 'u' && name ≠ ['*'] then
              fail (name ++ ": parameter not set".toList)
            return valueScraps quoted (value?.getD [])
        match treatment with
        | .plain => own
        | .length => pure (valueScraps quoted (Text.ofNat (value?.getD []).length))
        | .default orEmpty w => if missing orEmpty then operand w else own
        | .alternative orEmpty w => if missing orEmpty then pure [] else operand w
        | .assign orEmpty w =>
          if missing orEmpty then
            let t := text (← operand w)
            Run.assign name t
            pure (valueScraps quoted t)
          else own
        | .require orEmpty w =>
          if missing orEmpty then
            let message := text (← operand w)
            let message := if message ≠ [] then message
              else if orEmpty then "parameter not set or null".toList
              else "parameter not set".toList
            fail (name ++ ": ".toList ++ message)
          else own
        | .dropStart longest w =>
          pure (valueScraps quoted ((← pattern w).dropStart longest (value?.getD [])))
        | .dropEnd longest w =>
          pure (valueScraps quoted ((← pattern w).dropEnd longest (value?.getD [])))
    return first ++ (← scraps substitute fuel parts)

/-- The word with the home directory in place of a tilde at its start. -/
def withHome (w : Word) : Run Word := do
  match w with
  | .text ('~' :: t) false :: parts =>
    if t = [] || t.head? = some '/' then
      match ← Run.valueOf? "HOME".toList with
      | some home => return .text home true :: .text t false :: parts
      | none => return w
    else return w
  | w => return w

/-- How deep the parts of a word may nest, its length included. -/
def depth : Nat := 1000

/-- The fields of a word, with the paths that they match.  A plain text and a quoted variable, of
which most words consist, are not looked at byte by byte. -/
def wordFields (substitute : Octets → Run Octets) (w : Word) : Run (List Octets) := do
  match w with
  | [.text t false] =>
    if t ≠ [] && !t.any fun c => c = '*' || c = '?' || c = '[' || c = '~' then return [t]
  | [.text [] true, .parameter name .plain true] =>
    if isName name then
      if let some t ← parameter? name then return [t]
  | _ => pure ()
  let ss ← scraps substitute depth (← withHome w)
  let m ← get
  let separators := (m.shell.valueOf? "IFS".toList).getD " \t\n".toList
  let fs := fields separators ss
  if m.shell.flags.contains 'f' then return fs.map fun f => f.map (·.char)
  else return fs.flatMap (paths m.files m.shell.cwd)

/-- A word as one text. -/
def wordText (substitute : Octets → Run Octets) (w : Word) : Run Octets := do
  return text (← scraps substitute depth (← withHome w))

/-- A word as a pattern. -/
def wordPattern (substitute : Octets → Run Octets) (w : Word) : Run Pattern := do
  return .ofGlyphs (glyphs (← scraps substitute depth (← withHome w)))

end Expansion
end Shell
end Doctest
