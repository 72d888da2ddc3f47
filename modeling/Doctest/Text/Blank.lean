/-
# White space

The characters with the `White_Space` property: the controls U+0009 to U+000D, the space, U+0085,
the no-break space and the fixed-width spaces and separators.  The zero-width characters U+200B and
U+FEFF and the separators U+001C to U+001F do not count.
-/

import Doctest.Text.Ranges

namespace Doctest
namespace Text

/-- The white-space characters. -/
def blankRanges : List (Nat × Nat) := [
  (0x9, 0xd), (0x20, 0x20), (0x85, 0x85), (0xa0, 0xa0), (0x1680, 0x1680), (0x2000, 0x200a),
  (0x2028, 0x2029), (0x202f, 0x202f), (0x205f, 0x205f), (0x3000, 0x3000)]

/-- Whether a character is white space. -/
def isBlankChar (c : Char) : Bool := inRanges c.toNat blankRanges

/-- **Every character that core calls white space is white space here too.** -/
theorem isBlankChar_of_isWhitespace {c : Char} (h : c.isWhitespace = true) :
    isBlankChar c = true := by
  simp only [Char.isWhitespace, Bool.or_eq_true, decide_eq_true_eq] at h
  rcases h with ((h | h) | h) | h <;> subst h <;> rfl

/-- Whether a text holds white space only. -/
def isBlank (t : Text) : Bool := t.all isBlankChar

/-- The text without the white space at its start. -/
def trimStart (t : Text) : Text := t.dropWhile isBlankChar

/-- The text without the white space at its end. -/
def trimEnd (t : Text) : Text := trimEndWhile isBlankChar t

/-- The text without the white space at both ends. -/
def trim (t : Text) : Text := trimEnd (trimStart t)

/-- Whether the first character is there and is not white space. -/
def startsSolid : Text → Bool
  | [] => false
  | c :: _ => !isBlankChar c

end Text
end Doctest
