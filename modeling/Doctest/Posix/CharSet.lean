/-
# Sets of bytes in brackets

What stands between `[` and `]` in a pattern: single bytes, ranges and classes such as
`[:alpha:]`.  A `]` that comes first stands for itself.
-/

import Doctest.Posix.Octets

namespace Doctest

/-- A set of bytes, given by ranges, or all others. -/
structure CharSet where
  negated : Bool
  ranges : List (Char × Char)
deriving DecidableEq, Repr

namespace CharSet

/-- Whether the byte is in the set. -/
def contains (s : CharSet) (c : Char) : Bool :=
  s.ranges.any (fun r => r.1 ≤ c && c ≤ r.2) != s.negated

/-- The set of one byte. -/
def single (c : Char) : CharSet := ⟨false, [(c, c)]⟩

/-- The set of all bytes. -/
def all : CharSet := ⟨true, []⟩

/-- The bytes of a class; an unknown one has none. -/
def classRanges (name : Octets) : List (Char × Char) :=
  match String.ofList name with
  | "alpha" => [('A', 'Z'), ('a', 'z')]
  | "digit" => [('0', '9')]
  | "alnum" => [('0', '9'), ('A', 'Z'), ('a', 'z')]
  | "upper" => [('A', 'Z')]
  | "lower" => [('a', 'z')]
  | "space" => [('\t', '\r'), (' ', ' ')]
  | "blank" => [('\t', '\t'), (' ', ' ')]
  | "punct" => [('!', '/'), (':', '@'), ('[', '\x60'), ('\x7b', '~')]
  | "print" => [(' ', '~')]
  | "graph" => [('!', '~')]
  | "cntrl" => [('\x00', '\x1f'), ('\x7f', '\x7f')]
  | "xdigit" => [('0', '9'), ('A', 'F'), ('a', 'f')]
  | _ => [('\x01', '\x00')]

/-- Letters, digits and the underscore. -/
def wordRanges : List (Char × Char) := [('0', '9'), ('A', 'Z'), ('_', '_'), ('a', 'z')]

/-- The name of a class and what follows its `:]`. -/
def className? : Octets → Option (Octets × Octets)
  | ':' :: ']' :: rest => some ([], rest)
  | c :: rest => (className? rest).map fun (name, rest) => (c :: name, rest)
  | [] => none

/-- The class at the start of a text and what follows it. -/
def class? : Octets → Option (List (Char × Char) × Octets)
  | '[' :: ':' :: rest => (className? rest).map fun (name, rest) => (classRanges name, rest)
  | _ => none

/-- Reads members up to the closing bracket; `fuel` bounds their number. -/
def readMembers : Nat → Octets → List (Char × Char) → Option (List (Char × Char) × Octets)
  | 0, _, _ => none
  | fuel + 1, t, ranges =>
    match class? t, t with
    | some (more, rest), _ => readMembers fuel rest (ranges ++ more)
    | none, [] => none
    | none, c :: rest =>
      if c = ']' && ranges ≠ [] then some (ranges, rest)
      else match rest with
        | '-' :: d :: after =>
          if d = ']' then readMembers fuel rest (ranges ++ [(c, c)])
          else readMembers fuel after (ranges ++ [(c, d)])
        | _ => readMembers fuel rest (ranges ++ [(c, c)])

/-- Reads a set after its opening bracket; one of the bytes in `negations`, coming first, asks for
all others. -/
def read? (negations : List Char) (t : Octets) : Option (CharSet × Octets) :=
  match t with
  | c :: rest =>
    if negations.contains c then
      (readMembers (rest.length + 1) rest []).map fun (ranges, rest) => (⟨true, ranges⟩, rest)
    else (readMembers (t.length + 1) t []).map fun (ranges, rest) => (⟨false, ranges⟩, rest)
  | [] => none

example : (read? ['^'] "^a-c]x".toList).map (fun s => (s.1.contains 'b', s.1.contains 'd', s.2)) =
    some (false, true, ['x']) := by decide +kernel

end CharSet
end Doctest
