/-
# Commands of the shell

A word is a list of parts, each quoted or not; what stands inside an expansion is kept as it was
written and is read when the expansion takes place.  A command is a simple one, or is put together
from others.
-/

import Doctest.Posix.Octets

namespace Doctest
namespace Shell

/-- What is done with the value of a parameter.  `orEmpty` says that an empty value counts as
none. -/
inductive Treatment where
  | plain
  | length
  | default (orEmpty : Bool) (word : Octets)
  | assign (orEmpty : Bool) (word : Octets)
  | require (orEmpty : Bool) (word : Octets)
  | alternative (orEmpty : Bool) (word : Octets)
  | dropStart (longest : Bool) (pattern : Octets)
  | dropEnd (longest : Bool) (pattern : Octets)
deriving DecidableEq, Repr

/-- A part of a word. -/
inductive Part where
  | text (t : Octets) (quoted : Bool)
  | parameter (name : Octets) (treatment : Treatment) (quoted : Bool)
  | command (source : Octets) (quoted : Bool)
  | arithmetic (source : Octets) (quoted : Bool)
deriving DecidableEq, Repr

/-- A word. -/
abbrev Word := List Part

/-- What is put in the place of a stream.  `force` says that what a file holds may be dropped even
if the shell protects files. -/
inductive Replacement where
  | input (path : Word)
  | output (path : Word) (force : Bool)
  | append (path : Word)
  | both (path : Word)
  | stream (number : Word)
  | document (body : Word)
deriving DecidableEq, Repr

/-- A replacement of a stream. -/
structure Redirection where
  stream : Nat
  replacement : Replacement
deriving DecidableEq, Repr

/-- An assignment to a variable. -/
structure Assignment where
  name : Octets
  value : Word
deriving DecidableEq, Repr

/-- A command without others inside. -/
structure Simple where
  line : Nat
  assignments : List Assignment
  words : List Word
  redirections : List Redirection
deriving DecidableEq, Repr

/-- A command. -/
inductive Command where
  | nothing
  | simple (c : Simple)
  | pipe (a b : Command)
  | not (a : Command)
  | and (a b : Command)
  | or (a b : Command)
  | sequence (a b : Command)
  | background (a : Command)
  | subshell (a : Command)
  | conditional (condition yes no : Command)
  | loop (until_ : Bool) (condition body : Command)
  | each (name : Octets) (words? : Option (List Word)) (body : Command)
  | choice (value : Word) (clauses : Command)
  | clause (patterns : List Word) (body otherwise : Command)
  | define (name : Octets) (body : Command)
  | redirected (a : Command) (redirections : List Redirection)
deriving DecidableEq, Repr

/-- Whether a byte may start a name. -/
def startsName (c : Char) : Bool := ('a' ≤ c && c ≤ 'z') || ('A' ≤ c && c ≤ 'Z') || c = '_'

/-- Whether a byte may stand in a name. -/
def inName (c : Char) : Bool := startsName c || Octets.isDigit c

/-- Whether a text is the name of a variable. -/
def isName (t : Octets) : Bool := t.head?.any startsName && t.all inName

end Shell
end Doctest
