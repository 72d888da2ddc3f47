/-
# Reading a quoted text back

The escapes of a quoted text do not overlap, so a reader that goes through it once finds out what
they stand for.  It knows where it is:

| in | next | then in |
| --- | --- | --- |
| text | a backslash | an escape |
| text | a quotation mark | nothing: the text would end here |
| an escape | `u` | a code point, at its brace |
| an escape | a letter, a digit or a mark that stands for a character | text |
| a code point | a hexadecimal digit | the code point |
| a code point | the brace that ends it | text |

What it reads between the marks is the text that was quoted (`unescape_flatMap`), and a quoted text
is one line (`newline_not_mem_quoted`), whatever it holds.  A code point that is no character's is
not read.
-/

import Doctest.Text.Quoted
import Doctest.Toml.Lexeme
import Mathlib.Tactic.SplitIfs

namespace Doctest
namespace Text

/-- Where a reader of a quoted text is: in its text, after a backslash, before the brace of a code
point, or after some of its digits, which stand for a number. -/
inductive Within where
  | text
  | escape
  | brace
  | code (n : Nat)
deriving DecidableEq, Repr

/-- The character that a backslash and one more character stand for. -/
def ofEscape? : Char → Option Char
  | '0' => some '\x00'
  | 't' => some '\t'
  | 'n' => some '\n'
  | 'r' => some '\r'
  | '\\' => some '\\'
  | '"' => some '"'
  | _ => none

/-- What the rest of a text between quotation marks stands for, if its escapes are sound. -/
def unescapeFrom : Within → Text → Option Text
  | .text, [] => some []
  | _, [] => none
  | .text, c :: t =>
    if c = '\\' then unescapeFrom .escape t
    else if c = '"' then none
    else (unescapeFrom .text t).map (c :: ·)
  | .escape, c :: t =>
    if c = 'u' then unescapeFrom .brace t
    else (ofEscape? c).bind fun d => (unescapeFrom .text t).map (d :: ·)
  | .brace, c :: t => if c = '\x7b' then unescapeFrom (.code 0) t else none
  | .code n, c :: t =>
    if c = '\x7d' then
      if n.isValidChar then (unescapeFrom .text t).map (Char.ofNat n :: ·) else none
    else (Toml.hexDigit? c).bind fun d => unescapeFrom (.code (16 * n + d)) t

/-- What a text between quotation marks stands for. -/
def unescape (t : Text) : Option Text := unescapeFrom .text t

/-! ## Hexadecimal digits -/

/-- The sixteen digits are read as what they were written for. -/
theorem hexDigit?_digitChar : ∀ d < 16, Toml.hexDigit? (Nat.digitChar d) = some d := by decide

/-- **The digits of a code point are read as the code point.**  The induction goes from the last
digit to the first, as the digits before it are those of the number divided by sixteen. -/
theorem unescapeFrom_toDigits (n : Nat) (t : Text) :
    unescapeFrom (.code 0) (Nat.toDigits 16 n ++ t) = unescapeFrom (.code n) t := by
  induction n using Nat.strongRecOn generalizing t with
  | ind n ih =>
    have hstep : ∀ d < 16, ∀ m, unescapeFrom (.code m) (Nat.digitChar d :: t) =
        unescapeFrom (.code (16 * m + d)) t := by
      intro d hd m
      have hbrace : Nat.digitChar d ≠ '\x7d' := by
        have hdigit := hexDigit?_digitChar d hd
        intro hc
        rw [hc] at hdigit
        cases hdigit
      rw [unescapeFrom, if_neg hbrace, hexDigit?_digitChar d hd]
      rfl
    rw [Nat.toDigits_eq_if (by decide)]
    split
    · rename_i hsmall
      rw [List.singleton_append, hstep n hsmall, Nat.mul_zero, Nat.zero_add]
    · rename_i hlarge
      have hless : n / 16 < n := by omega
      rw [List.append_assoc, ih _ hless, List.singleton_append, hstep _ (by omega),
        Nat.div_add_mod]

/-- Each of the digits is one. -/
theorem exists_digitChar {n : Nat} {c : Char} (hc : c ∈ Nat.toDigits 16 n) :
    ∃ d < 16, c = Nat.digitChar d := by
  induction n using Nat.strongRecOn with
  | ind n ih =>
    rw [Nat.toDigits_eq_if (by decide)] at hc
    split at hc
    · rename_i hsmall
      exact ⟨n, hsmall, List.mem_singleton.1 hc⟩
    · rename_i hlarge
      rcases List.mem_append.1 hc with hc | hc
      · exact ih (n / 16) (by omega) hc
      · exact ⟨n % 16, by omega, List.mem_singleton.1 hc⟩

/-! ## Escaped characters -/

theorem unescapeFrom_escapeCode (c : Char) (t : Text) :
    unescapeFrom .text (escapeCode c ++ t) = (unescapeFrom .text t).map (c :: ·) := by
  have hopen : ∀ r, unescapeFrom .text ("\\u\x7b".toList ++ r) = unescapeFrom (.code 0) r :=
    fun _ => rfl
  have hclose : unescapeFrom (.code c.toNat) ("\x7d".toList ++ t) =
      if c.toNat.isValidChar then (unescapeFrom .text t).map (Char.ofNat c.toNat :: ·) else none :=
    rfl
  have hvalid : c.toNat.isValidChar := c.valid
  rw [escapeCode, List.append_assoc, List.append_assoc, hopen, unescapeFrom_toDigits, hclose,
    if_pos hvalid, Char.ofNat_toNat]

/-- **One character is read back**, whatever comes after it. -/
theorem unescapeFrom_escapeChar (c : Char) (t : Text) :
    unescapeFrom .text (escapeChar c ++ t) = (unescapeFrom .text t).map (c :: ·) := by
  unfold escapeChar
  split_ifs with hzero htab hfeed hreturn hslash hquote hcode
  · rw [hzero]
    rfl
  · rw [htab]
    rfl
  · rw [hfeed]
    rfl
  · rw [hreturn]
    rfl
  · rw [hslash]
    rfl
  · rw [hquote]
    rfl
  · exact unescapeFrom_escapeCode c t
  · rw [List.singleton_append, unescapeFrom, if_neg hslash, if_neg hquote]

theorem newline_not_mem_escapeChar (c : Char) : '\n' ∉ escapeChar c := by
  have hdigits : '\n' ∉ Nat.toDigits 16 c.toNat := by
    intro hmem
    obtain ⟨d, hd, hdigit⟩ := exists_digitChar hmem
    have hread := hexDigit?_digitChar d hd
    rw [← hdigit] at hread
    cases hread
  have hbraces : '\n' ∉ "\\u\x7b".toList ∧ '\n' ∉ "\x7d".toList := by decide
  unfold escapeChar
  split_ifs with hzero htab hfeed
  · decide
  · decide
  · decide
  · decide
  · decide
  · decide
  · exact List.not_mem_append (List.not_mem_append hbraces.1 hdigits) hbraces.2
  · exact fun hmem => hfeed (List.mem_singleton.1 hmem).symm

/-! ## Quoted texts -/

/-- **What was quoted is read back** from what stands between the quotation marks. -/
theorem unescape_flatMap (t : Text) : unescape (t.flatMap escapeChar) = some t := by
  induction t with
  | nil => rfl
  | cons c t ih =>
    rw [unescape] at ih ⊢
    rw [List.flatMap_cons, unescapeFrom_escapeChar, ih]
    rfl

/-- **A quoted text is one line.** -/
theorem newline_not_mem_quoted (t : Text) : '\n' ∉ quoted t := by
  have hquote : '\n' ∉ ['"'] := by decide
  have hchars : '\n' ∉ t.flatMap escapeChar := by
    intro hmem
    obtain ⟨c, -, hc⟩ := List.mem_flatMap.1 hmem
    exact newline_not_mem_escapeChar c hc
  exact List.not_mem_append (List.not_mem_append hquote hchars) hquote

end Text
end Doctest
