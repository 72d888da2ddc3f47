/-
# Patterns of names

| in the pattern | matches |
| --- | --- |
| `*` | any bytes |
| `?` | one byte |
| `[…]` | one byte of the set |
| anything else, or quoted | itself |
-/

import Doctest.Posix.CharSet

namespace Doctest

/-- A byte of a pattern; a live one may have a special meaning, a quoted one stands for itself. -/
structure Glyph where
  char : Char
  live : Bool
deriving DecidableEq, Repr

/-- An element of a pattern. -/
inductive Wildcard where
  | one (s : CharSet)
  | many
deriving DecidableEq, Repr

/-- A pattern. -/
abbrev Pattern := List Wildcard

namespace Pattern

/-- Reads a pattern; a bracket that is not closed stands for itself. -/
def ofGlyphs (gs : List Glyph) : Pattern :=
  match gs with
  | [] => []
  | ⟨c, live⟩ :: rest =>
    if !live then .one (.single c) :: ofGlyphs rest
    else if c = '*' then .many :: ofGlyphs rest
    else if c = '?' then .one .all :: ofGlyphs rest
    else if c = '[' then
      match CharSet.read? ['!'] (rest.map (·.char)) with
      | some (s, after) => .one s :: ofGlyphs (rest.drop (rest.length - after.length))
      | none => .one (.single c) :: ofGlyphs rest
    else .one (.single c) :: ofGlyphs rest
termination_by gs.length
decreasing_by all_goals simp only [List.length_cons, List.length_drop]; omega

/-- A text as glyphs, where a backslash quotes the next byte. -/
def glyphsOf : Octets → List Glyph
  | '\\' :: c :: t => ⟨c, false⟩ :: glyphsOf t
  | c :: t => ⟨c, true⟩ :: glyphsOf t
  | [] => []

/-- Reads a pattern from a text. -/
def ofText (t : Octets) : Pattern := ofGlyphs (glyphsOf t)

/-- Whether the pattern matches the whole text. -/
def isMatch : Pattern → Octets → Bool
  | [], t => t.isEmpty
  | .one s :: p, t =>
    match t with
    | c :: t => s.contains c && isMatch p t
    | [] => false
  | .many :: p, t => (List.range (t.length + 1)).any fun n => isMatch p (t.drop n)

/-- Whether anything in the glyphs can match more than itself. -/
def isWild (gs : List Glyph) : Bool :=
  gs.any fun g => g.live && (g.char = '*' || g.char = '?' || g.char = '[')

/-- The text without the shortest or the longest start that matches. -/
def dropStart (p : Pattern) (longest : Bool) (t : Octets) : Octets :=
  let cuts := (List.range (t.length + 1)).filter fun n => p.isMatch (t.take n)
  match if longest then cuts.getLast? else cuts.head? with
  | some n => t.drop n
  | none => t

/-- The text without the shortest or the longest end that matches. -/
def dropEnd (p : Pattern) (longest : Bool) (t : Octets) : Octets :=
  let cuts := (List.range (t.length + 1)).filter fun n => p.isMatch (t.drop n)
  match if longest then cuts.head? else cuts.getLast? with
  | some n => t.take n
  | none => t

end Pattern

example : Pattern.isMatch (Pattern.ofGlyphs ("a*[0-9].rb".toList.map (⟨·, true⟩)))
    "a-x7.rb".toList = true := by decide +kernel

end Doctest
