/-
# Texts, bytes and lines

A text is the list of its characters.  Every offset and length that the program reports counts
bytes of the UTF-8 encoding, so a text has a byte length and is cut by bytes only where a
character begins.

| name | cuts | keeps the terminators |
| --- | --- | --- |
| `rawLines` | after each `\n` | yes |
| `lines` | after each `\n` | no: one `\n`, and one `\r` right before it, goes |
| `stripTerminators` | one raw line | no: every trailing `\n` and `\r` goes |
-/

namespace Doctest

/-- A text: the list of its characters. -/
abbrev Text := List Char

namespace Text

/-- Number of bytes of the UTF-8 encoding. -/
def bytes : Text → Nat
  | [] => 0
  | c :: t => c.utf8Size + bytes t

@[simp] theorem bytes_nil : bytes [] = 0 := rfl

@[simp] theorem bytes_cons (c : Char) (t : Text) : bytes (c :: t) = c.utf8Size + bytes t := rfl

@[simp] theorem bytes_append (s t : Text) : bytes (s ++ t) = bytes s + bytes t := by
  induction s with
  | nil => simp
  | cons c s ih => simp [ih, Nat.add_assoc]

/-- The first `n` bytes, when the cut does not fall inside a character. -/
def takeBytes? : Text → Nat → Option Text
  | _, 0 => some []
  | [], _ + 1 => none
  | c :: t, n + 1 =>
    if c.utf8Size ≤ n + 1 then (takeBytes? t (n + 1 - c.utf8Size)).map (c :: ·) else none

/-- The text without its longest end of characters that satisfy `p`. -/
def trimEndWhile (p : Char → Bool) (t : Text) : Text :=
  (t.reverse.dropWhile p).reverse

/-- The pieces of a text cut after each line feed, terminators included. -/
def rawLines : Text → List Text
  | [] => []
  | c :: t =>
    if c = '\n' then [c] :: rawLines t
    else match rawLines t with
      | [] => [[c]]
      | l :: ls => (c :: l) :: ls

/-- Cutting into lines loses nothing. -/
@[simp] theorem flatten_rawLines (t : Text) : (rawLines t).flatten = t := by
  induction t with
  | nil => rfl
  | cons c t ih =>
    unfold rawLines
    split
    · simp [ih]
    · split <;> rename_i h <;> simp [h] at ih <;> simp [← ih]

/-- A line feed or a carriage return: the characters a line may end in. -/
def isTerminator (c : Char) : Bool := c = '\n' || c = '\r'

/-- A raw line without the line feeds and carriage returns at its end. -/
def stripTerminators (l : Text) : Text := trimEndWhile isTerminator l

section Parts

variable {α : Type} [DecidableEq α]

/-- What follows the text `p` at the start of a text, or of other data, that begins with it. -/
def afterStart? : List α → List α → Option (List α)
  | [], t => some t
  | _ :: _, [] => none
  | p :: ps, c :: t => if p = c then afterStart? ps t else none

/-- Whether a text begins with `p`. -/
def startsWith (p t : List α) : Bool := (afterStart? p t).isSome

/-- The pieces between the occurrences of one character; always at least one piece. -/
def splitOn (sep : α) : List α → List (List α)
  | [] => [[]]
  | c :: t =>
    if c = sep then [] :: splitOn sep t
    else match splitOn sep t with
      | [] => [[c]]
      | p :: ps => (c :: p) :: ps

theorem afterStart?_eq_some_iff {p t r : List α} : afterStart? p t = some r ↔ t = p ++ r := by
  induction p generalizing t with
  | nil => simp [afterStart?, eq_comm]
  | cons a p ih =>
    cases t with
    | nil => simp [afterStart?]
    | cons c t =>
      unfold afterStart?
      split
      · subst_vars; simp [ih]
      · constructor
        · intro h; simp at h
        · intro h; simp_all

end Parts

/-- The pieces with `sep` between each two. -/
def join {α : Type} (sep : List α) (ts : List (List α)) : List α := List.intercalate sep ts

/-- What precedes the text `s` at the end of a text that ends in it. -/
def beforeEnd? (s t : Text) : Option Text :=
  (afterStart? s.reverse t.reverse).map List.reverse

/-- `t` without the text `s` at its end; `t` itself when it has no such end. -/
def dropEnd (s t : Text) : Text := (beforeEnd? s t).getD t

/-- A raw line without its line feed and one carriage return right before that line feed.  A line
that does not end in a line feed is kept whole. -/
def chopLine (l : Text) : Text :=
  match beforeEnd? ['\n'] l with
  | some body => dropEnd ['\r'] body
  | none => l

/-- The lines of a text without terminators; there is no empty line after a final terminator. -/
def lines (t : Text) : List Text := (rawLines t).map chopLine

/-- What follows the first occurrence of `marker`. -/
def afterFirst? (marker : Text) : Text → Option Text
  | [] => if marker = [] then some [] else none
  | c :: t =>
    match afterStart? marker (c :: t) with
    | some rest => some rest
    | none => afterFirst? marker t

/-- Whether `marker` occurs in the text. -/
def contains (marker t : Text) : Bool := (afterFirst? marker t).isSome

/-- Every occurrence of the character `c` becomes the text `r`. -/
def replaceChar (c : Char) (r : Text) (t : Text) : Text :=
  t.flatMap fun x => if x = c then r else [x]

/-- A number in decimal digits. -/
def ofNat (n : Nat) : Text := Nat.toDigits 10 n

/-- An integer in decimal digits, a minus sign first when it is negative. -/
def ofInt : Int → Text
  | .ofNat n => ofNat n
  | .negSucc n => '-' :: ofNat (n + 1)

/-- `n` copies of a character. -/
def repeated (n : Nat) (c : Char) : Text := List.replicate n c

end Text
end Doctest
