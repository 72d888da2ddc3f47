/-
# A tree of files

The tree is kept as the places that exist, each with what is there.  A path is walked piece by
piece:

| piece | where it stands | |
| --- | --- | --- |
| empty or `.` | a directory | stays |
| `..` | a directory | goes to the parent; the root is its own |
| more than 255 bytes | a directory | the name is too long |
| a name | a directory | goes there, or it is missing |
| the name of a link | a directory | goes where the link's own path leads |
| any | no directory | not a directory |

So a path that ends in `/` leads to a directory only.  Links may lead to links, up to forty of them.
-/

import Doctest.Posix.Octets
import Doctest.Host.Basic

namespace Doctest

/-- A place in the tree: the names on the way from the root. -/
abbrev Place := List Octets

/-- What a device does: it is always empty, it is full of zero bytes, or it stands for a stream of
the process that opens it. -/
inductive Device where
  | null
  | zero
  | stream (number : Nat)
deriving DecidableEq, Repr

/-- What is at a place: a directory, a file of data, one of the machine's own programs, a device, or
a link to a path. -/
inductive Node where
  | directory
  | file (content : Octets) (isExecutable : Bool)
  | program (name : Octets)
  | device (kind : Device)
  | link (target : Octets)
deriving DecidableEq, Repr

/-- A tree of files. -/
structure Files where
  entries : List (Place × Node)
deriving DecidableEq, Repr

/-- Where a path leads: to something, or to nothing at a place whose directory exists. -/
inductive Destination where
  | found (place : Place) (node : Node)
  | missing (place : Place)
deriving DecidableEq, Repr

/-- What a device that is no stream holds, as far as it can be taken as a whole: zero bytes come
without end. -/
def Device.content : Device → Octets
  | .null | .stream _ => []
  | .zero => List.replicate 262144 '\x00'

namespace Files

/-- What is at a place. -/
def node? (f : Files) (p : Place) : Option Node :=
  if p = [] then some .directory else f.entries.lookup p

/-- The tree without what is at the place. -/
def erase (f : Files) (p : Place) : Files := ⟨f.entries.filter (·.1 ≠ p)⟩

/-- The tree with something new at the place. -/
def insert (f : Files) (p : Place) (n : Node) : Files := ⟨(p, n) :: (f.erase p).entries⟩

/-- The tree with all directories on the way to the place. -/
def insertParents (f : Files) (p : Place) : Files :=
  (List.range p.length).foldl (fun f i =>
    if (f.node? (p.take i)).isSome then f else f.insert (p.take i) .directory) f

/-- The names in a directory, sorted by their bytes. -/
def names (f : Files) (p : Place) : List Octets :=
  let inside :=
    f.entries.filterMap fun e => if e.1 ≠ [] && e.1.dropLast = p then e.1.getLast? else none
  inside.mergeSort fun a b => !(b.map Char.toNat < a.map Char.toNat)

/-- The greatest number of bytes in a name. -/
def nameLimit : Nat := 255

/-- The number of bytes that a path stays below. -/
def pathLimit : Nat := 4096

/-- The number of links on the way that a path stays within. -/
def linkLimit : Nat := 40

/-- Whether a piece of a path leads nowhere: it is empty or a single point. -/
def isNoise (piece : Octets) : Bool := piece = [] || piece = ['.']

/-- The place that a path names when its directories are taken as they are written. -/
def placeOf (cwd : Place) (path : Octets) : Place :=
  (if path.head? = some '/' then [] else cwd) ++ (Octets.split '/' path).filter (!isNoise ·)

/-- Walks the pieces of a path.  `links` bounds the links on the way, and a link at the end counts
as one only if `follows`. -/
def walkPieces (f : Files) (follows : Bool) (links : Nat) (here : Place) (pieces : List Octets) :
    Except IoError Destination :=
  match pieces with
  | [] =>
    match f.node? here with
    | some n => .ok (.found here n)
    | none => .error .notFound
  | piece :: pieces =>
    match f.node? here with
    | some .directory =>
      if isNoise piece then walkPieces f follows links here pieces
      else if piece = ['.', '.'] then walkPieces f follows links here.dropLast pieces
      else if nameLimit < piece.length then .error .nameTooLong
      else match f.node? (here ++ [piece]) with
        | some (.link target) =>
          if pieces = [] && !follows then .ok (.found (here ++ [piece]) (.link target))
          else match links with
            | 0 => .error (.other "Too many levels of symbolic links (os error 40)".toList)
            | links + 1 =>
              walkPieces f follows links (if target.head? = some '/' then [] else here)
                (Octets.split '/' target ++ pieces)
        | some _ => walkPieces f follows links (here ++ [piece]) pieces
        | none => if pieces = [] then .ok (.missing (here ++ [piece])) else .error .notFound
    | some _ => .error .notDirectory
    | none => .error .notFound
termination_by (links, pieces.length)

/-- Walks a path; a relative one starts at the place `cwd`. -/
def walkTo (f : Files) (follows : Bool) (cwd : Place) (path : Octets) :
    Except IoError Destination :=
  if path = [] then .error .notFound
  else if path.any (· = '\x00') then .error .nulInPath
  else if pathLimit ≤ path.length then .error .nameTooLong
  else f.walkPieces follows linkLimit (if path.head? = some '/' then [] else cwd)
    (Octets.split '/' path)

/-- Walks a path to where it leads. -/
def walk (f : Files) (cwd : Place) (path : Octets) : Except IoError Destination :=
  f.walkTo true cwd path

/-- What is at the end of a path. -/
def find? (f : Files) (cwd : Place) (path : Octets) : Option Node :=
  match f.walk cwd path with
  | .ok (.found _ n) => some n
  | _ => none

/-- The contents at the end of a path; a program's own contents are not shown. -/
def read (f : Files) (cwd : Place) (path : Octets) : Except IoError Octets :=
  match f.walk cwd path with
  | .error e => .error e
  | .ok (.missing _) => .error .notFound
  | .ok (.found _ n) =>
    match n with
    | .directory => .error .isDirectory
    | .file content _ => .ok content
    | .program _ | .link _ => .ok []
    | .device d => .ok d.content

/-- Puts contents at the end of a path. -/
def write (f : Files) (cwd : Place) (path content : Octets) : Except IoError Files :=
  match f.walk cwd path with
  | .error e => .error e
  | .ok (.missing p) => .ok (f.insert p (.file content false))
  | .ok (.found p n) =>
    match n with
    | .directory => .error .isDirectory
    | .file _ isExecutable => .ok (f.insert p (.file content isExecutable))
    | .program _ | .link _ => .error .permissionDenied
    | .device _ => .ok f

/-- The path from the root to a place. -/
def pathTo (p : Place) : Octets := if p = [] then ['/'] else p.flatMap ('/' :: ·)

end Files

/-- Whether there is a regular file. -/
def Node.isFile : Node → Bool
  | .file .. | .program _ => true
  | .directory | .device _ | .link _ => false

/-- Whether it can be run. -/
def Node.isExecutable : Node → Bool
  | .file _ x => x
  | .program _ => true
  | .directory | .device _ | .link _ => false

end Doctest
