/-
# Paths

A path is kept as it was written, as bytes: it need not encode a text, and shown as one it has a
replacement character for each run of bytes that encodes none.  So two paths may be shown alike.
Its components are what is left of it after the separators:

| piece of the path | component |
| --- | --- |
| the leading `/` | `root` |
| `.` at the very start | `current` |
| `..` | `parent` |
| any other `.`, and nothing between two separators | none |
| anything else | `normal` |

So `a//b/./c/` and `a/b/c` have the same components, and a bare name has exactly one.
-/

import Doctest.Text.Utf8

namespace Doctest

/-- A path, as it was written. -/
abbrev Path := Bytes

namespace Path

/-- The path that a text writes. -/
def ofText (t : Text) : Path := Text.encode t

/-- The path as it is shown. -/
def display (p : Path) : Text := Text.decodeLenient p

/-- The byte between components. -/
abbrev slash : UInt8 := 0x2f

/-- The byte that a point is. -/
abbrev dot : UInt8 := 0x2e

/-- The byte between the entries of a search list. -/
abbrev colon : UInt8 := 0x3a

/-- A component of a path. -/
inductive Component where
  | root
  | current
  | parent
  | normal (name : Bytes)
deriving DecidableEq, Repr

/-- Whether the path starts at the root. -/
def isAbsolute (p : Path) : Bool := p.head? = some slash

/-- The pieces between separators. -/
def pieces (p : Path) : List Bytes := Text.splitOn slash p

/-- Whether a piece of a path stands for no component: it is empty or a single point. -/
def isNoise (piece : Bytes) : Bool := piece = [] || piece = [dot]

/-- The component of a piece that is not noise. -/
def Component.ofPiece (piece : Bytes) : Component :=
  if piece = [dot, dot] then .parent else .normal piece

/-- Whether the path starts with a single point as a piece of its own. -/
def startsCurrent (p : Path) : Bool := p.pieces.head? = some [dot]

/-- The components, in order. -/
def components (p : Path) : List Component :=
  (if p.isAbsolute then [.root] else if p.startsCurrent then [.current] else []) ++
    (p.pieces.filter (!isNoise ·)).map Component.ofPiece

/-- Whether the path is more than a bare name. -/
def isCompound (p : Path) : Bool := 1 < p.components.length

/-- `p` followed by `q`, with one separator between them; `q` alone when it is absolute. -/
def join (p q : Path) : Path :=
  if q.isAbsolute then q
  else if p = [] || p.getLast? = some slash then p ++ q
  else p ++ [slash] ++ q

/-- The length of what stands before the pieces: the root or a leading point. -/
def startLength (p : Path) : Nat := if p.isAbsolute || p.startsCurrent then 1 else 0

/-- The path without its last component; `none` for the root and for the empty path. -/
def parent? (p : Path) : Option Path :=
  let start := p.take p.startLength
  match (pieces (p.drop p.startLength)).reverse.dropWhile isNoise with
  | [] => if p.startsCurrent then some [] else none
  | _ :: before => some (start ++ Text.join [slash] (before.dropWhile isNoise).reverse)

/-- The name of the last component, when it is a name. -/
def fileName? (p : Path) : Option Bytes :=
  match p.components.getLast? with
  | some (.normal name) => some name
  | _ => none

/-- What follows the last point of the file name, when something precedes that point. -/
def extension? (p : Path) : Option Bytes := do
  let name ← p.fileName?
  match (Text.splitOn dot name).reverse with
  | last :: before :: more => if more = [] && before = [] then none else some last
  | _ => none

/-- One more component at the end of a path. -/
def push (p : Path) : Component → Path
  | .root => [slash]
  | .current => p.join [dot]
  | .parent => p.join [dot, dot]
  | .normal name => p.join name

/-- The same file from the root: a relative path starts at the directory `cwd`.  Points and doubled
separators go, `..` and a separator at the end stay, and so do exactly two leading separators.  The
empty path names no file. -/
def absolute? (cwd : Path) (p : Path) : Option Path :=
  if p = [] then none
  else
    let start : Path :=
      if p.isAbsolute then
        if Text.startsWith [slash, slash] p && !Text.startsWith [slash, slash, slash] p then
          [slash, slash]
        else [slash]
      else cwd
    let names := p.components.filter fun c => c ≠ .root && c ≠ .current
    let whole := names.foldl push start
    some (if p.getLast? = some slash then whole.join [] else whole)

/-- The endings of the names of programs on hosts that tell programs by their names. -/
def programExtensions : List Text :=
  ["exe".toList, "com".toList, "bat".toList, "cmd".toList]

/-- A letter of ASCII in lower case. -/
def lowerAscii (c : Char) : Char := if 'A' ≤ c && c ≤ 'Z' then Char.ofNat (c.toNat + 32) else c

/-- The file name to look for when a program is asked for by `name`: on a host that tells programs
by their names, `.exe` is added unless the name already has a program's ending. -/
def programFile (byEnding : Bool) (name : Text) : Text :=
  if !byEnding then name
  else match (extension? (ofText name)).bind Text.decode? with
    | some e =>
      if programExtensions.contains (e.map lowerAscii) then name else name ++ ".exe".toList
    | none => name ++ ".exe".toList

/-- The entries of a search list, which stand between colons. -/
def searchList (list : Bytes) : List Path := Text.splitOn colon list

end Path
end Doctest
