/-
# What the literal of a script stands for

A reader of a string literal takes a backslash with the character after it, and ends at the first
quotation mark that it meets on its own:

| text | denotes | goes on |
| --- | --- | --- |
| `\c` | `c`, escaped | yes |
| `"` | | no |
| any other `c` | `c` | yes |

It reads the literal of a library's path back and stops right at its end, whatever stands in the
path and whatever comes after it (`Script.readLiteral_literal`).  The three characters that could
end the literal, start an interpolation or be taken for an escape come escaped.  So a script can be
taken apart again: it tells the library, and the code up to a missing line feed at its end
(`Script.wrap_read`).
-/

import Doctest.Proofs.Text.Lines
import Doctest.Script

namespace Doctest
namespace Script

/-- A character that a literal denotes, and whether a backslash stands before it. -/
structure Glyph where
  char : Char
  escaped : Bool
deriving DecidableEq, Repr

/-- Reads a literal after its first quotation mark: what it denotes, and what comes after the mark
that ends it. -/
def readLiteral : Text → Option (List Glyph × Text)
  | [] => none
  | '"' :: t => some ([], t)
  | ['\\'] => none
  | '\\' :: c :: t => (readLiteral t).map fun r => (⟨c, true⟩ :: r.1, r.2)
  | c :: t => (readLiteral t).map fun r => (⟨c, false⟩ :: r.1, r.2)

/-- How a character of the path comes out: escaped if it would not stand for itself. -/
def glyph (c : Char) : Glyph := ⟨c, c = '\\' || c = '"' || c = '#'⟩

/-- One character is read back. -/
theorem readLiteral_escapeChar (c : Char) (t : Text) :
    readLiteral (escapeChar c ++ t) = (readLiteral t).map fun r => (glyph c :: r.1, r.2) := by
  unfold escapeChar glyph
  split
  · rename_i hspecial
    rw [hspecial]
    rfl
  · rename_i hspecial
    rw [Bool.not_eq_true] at hspecial
    rw [hspecial]
    simp only [Bool.or_eq_false_iff, decide_eq_false_iff_not] at hspecial
    obtain ⟨⟨hslash, hquote⟩, -⟩ := hspecial
    rw [List.singleton_append, readLiteral]
    · exact hquote
    · exact fun hc _ => hslash hc
    · exact fun _ _ hc _ => hslash hc

/-- **A literal is read back to its end**, whatever comes after it. -/
theorem readLiteral_literal (lib after : Text) :
    readLiteral (lib.flatMap escapeChar ++ '"' :: after) = some (lib.map glyph, after) := by
  induction lib with
  | nil => rfl
  | cons c lib ih =>
    rw [List.flatMap_cons, List.append_assoc, readLiteral_escapeChar, ih]
    rfl

/-- What stands in the script after the literal. -/
def afterLiteral (code : Text) : Text := "\nbegin\n".toList ++ body code ++ postamble

theorem wrap_eq (code lib : Text) :
    wrap code lib = "$LOAD_PATH.unshift \"".toList ++
      (lib.flatMap escapeChar ++ '"' :: afterLiteral code) := by
  have hopening : "$LOAD_PATH.unshift \"".toList = "$LOAD_PATH.unshift ".toList ++ ['"'] := by
    decide +kernel
  rw [hopening]
  unfold wrap preamble literal afterLiteral
  generalize "$LOAD_PATH.unshift ".toList = opening
  generalize "\nbegin\n".toList = begins
  simp

/-- **A script tells the library and the code.**  Reading the literal after the first word gives the
library's path, and what is left starts with the line feed that ends its line.  A character of the
path is escaped if it could end the literal, start an interpolation or be taken for a backslash of
the literal, and only then.  After the literal come `begin`, the code, ended by a line feed, and the
lines that catch what it raises.  Two scripts are the same only if the paths are, and the codes once
a missing line feed is added at the end. -/
theorem wrap_read (code lib : Text) :
    let ended (t : Text) := if t.getLast? = some '\n' then t else t ++ ['\n']
    (∃ rest glyphs, wrap code lib = "$LOAD_PATH.unshift \"".toList ++ rest ∧
      readLiteral rest = some (glyphs, "\nbegin\n".toList ++ ended code ++
        ("rescue Exception => __docmark_exception\n" ++
          "  puts \"raises #\x7b__docmark_exception.class\x7d\"\nend\n").toList) ∧
      glyphs.map Glyph.char = lib ∧
      ∀ g ∈ glyphs, g.escaped = true ↔ g.char = '\\' ∨ g.char = '"' ∨ g.char = '#') ∧
    ∀ code' lib', wrap code lib = wrap code' lib' ↔ lib = lib' ∧ ended code = ended code' := by
  intro ended
  have hbody : ∀ t, body t = ended t := fun _ => rfl
  have hpostamble : postamble = ("rescue Exception => __docmark_exception\n" ++
      "  puts \"raises #\x7b__docmark_exception.class\x7d\"\nend\n").toList := by decide +kernel
  simp only [← hbody, ← hpostamble]
  have hchars : ∀ path : Text, (path.map glyph).map Glyph.char = path := by
    intro path
    rw [List.map_map]
    exact List.map_id path
  refine ⟨⟨_, lib.map glyph, wrap_eq code lib, readLiteral_literal lib _, hchars lib, ?_⟩, ?_⟩
  · intro g hg
    obtain ⟨c, -, rfl⟩ := List.mem_map.1 hg
    simp [glyph, or_assoc]
  · intro code' lib'
    constructor
    · intro h
      rw [wrap_eq, wrap_eq] at h
      have hread := congrArg readLiteral (List.append_cancel_left h)
      rw [readLiteral_literal, readLiteral_literal] at hread
      obtain ⟨hglyphs, hafter⟩ := Prod.mk.inj (Option.some.inj hread)
      have hlib := congrArg (List.map Glyph.char) hglyphs
      rw [hchars, hchars] at hlib
      exact ⟨hlib, List.append_cancel_left (List.append_cancel_right hafter)⟩
    · rintro ⟨rfl, hcodes⟩
      rw [wrap, wrap, hcodes]

end Script
end Doctest
