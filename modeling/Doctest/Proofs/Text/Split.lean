/-
# Texts cut at a character

A text that was put together with one character between its parts is cut into these parts again, if
none of them holds the character (`splitOn_join`).  The same goes for bytes.  So what is written
line by line is read line by line, whatever the lines hold besides line feeds.  The lines that a
text has of its own hold none (`newline_not_mem_lines`).
-/

import Doctest.Proofs.Text.Lines

namespace Doctest
namespace Text

/-! ## Cutting and putting together -/

section Parts

variable {α : Type} [DecidableEq α]

theorem splitOn_eq_list (sep : α) (t : List α) : splitOn sep t = List.splitOn sep t := by
  induction t with
  | nil => rfl
  | cons c t ih =>
    have hcons := List.splitOnP_cons_eq_if_modifyHead (p := (· == sep)) c t
    rw [List.splitOn] at ih ⊢
    rw [splitOn, hcons, ih]
    by_cases hc : c = sep
    · simp [hc]
    · rw [if_neg hc, if_neg (by simpa using hc)]
      cases hsplit : List.splitOnP (· == sep) t with
      | nil => exact absurd hsplit (List.splitOnP_ne_nil _ _)
      | cons p ps => rfl

/-- **The parts are those that were put together**, if none of them holds the character. -/
theorem splitOn_join {sep : α} {ts : List (List α)} (h : ∀ t ∈ ts, sep ∉ t) (hne : ts ≠ []) :
    splitOn sep (join [sep] ts) = ts := by
  rw [splitOn_eq_list]
  exact List.splitOn_intercalate sep h hne

/-- The first part ends at the first such character. -/
theorem splitOn_append_cons {sep : α} {t : List α} (h : sep ∉ t) (r : List α) :
    splitOn sep (t ++ sep :: r) = t :: splitOn sep r := by
  induction t with
  | nil => rw [List.nil_append, splitOn, if_pos rfl]
  | cons c t ih =>
    obtain ⟨hc, ht⟩ := List.ne_and_not_mem_of_not_mem_cons h
    rw [List.cons_append, splitOn, if_neg (Ne.symm hc), ih ht]

/-- Parts that are each followed by the character come before the parts of the rest. -/
theorem splitOn_flatMap_append {sep : α} {ts : List (List α)} (h : ∀ t ∈ ts, sep ∉ t)
    (r : List α) :
    splitOn sep (ts.flatMap (· ++ [sep]) ++ r) = ts ++ splitOn sep r := by
  induction ts with
  | nil => rfl
  | cons t ts ih =>
    rw [List.forall_mem_cons] at h
    rw [List.flatMap_cons, List.append_assoc, List.append_assoc, List.singleton_append,
      splitOn_append_cons h.1, ih h.2]
    rfl

end Parts

/-- A first part and others after it, each with the character before it. -/
theorem join_cons {α : Type} (sep t : List α) (ts : List (List α)) :
    join sep (t :: ts) = t ++ ts.flatMap (sep ++ ·) := by
  induction ts generalizing t with
  | nil => simp [join]
  | cons u ts ih =>
    have hcons : join sep (t :: u :: ts) = t ++ sep ++ join sep (u :: ts) :=
      List.intercalate_cons_cons
    rw [hcons, ih, List.flatMap_cons]
    simp

/-- A last part and others before it, each with the character after it. -/
theorem join_concat {α : Type} (sep : List α) (ts : List (List α)) (t : List α) :
    join sep (ts ++ [t]) = ts.flatMap (· ++ sep) ++ t := by
  induction ts with
  | nil => exact List.intercalate_singleton
  | cons u ts ih =>
    have hcons : join sep (u :: (ts ++ [t])) = u ++ sep ++ join sep (ts ++ [t]) :=
      List.intercalate_cons_of_ne_nil (List.append_ne_nil_of_right_ne_nil ts
        (List.cons_ne_nil t []))
    rw [List.cons_append, hcons, ih, List.flatMap_cons]
    simp only [List.append_assoc]

/-! ## Replacing a character -/

@[simp] theorem replaceChar_append (c : Char) (r s t : Text) :
    replaceChar c r (s ++ t) = replaceChar c r s ++ replaceChar c r t := List.flatMap_append

/-- A text without the character stays as it is. -/
theorem replaceChar_of_not_mem {c : Char} {t : Text} (h : c ∉ t) (r : Text) :
    replaceChar c r t = t := by
  induction t with
  | nil => rfl
  | cons d t ih =>
    obtain ⟨hd, ht⟩ := List.ne_and_not_mem_of_not_mem_cons h
    have hstep : replaceChar c r (d :: t) = (if d = c then r else [d]) ++ replaceChar c r t := rfl
    rw [hstep, if_neg (Ne.symm hd), ih ht]
    rfl

/-! ## Lines and numbers -/

/-- What is left without an end is the start of the text. -/
theorem dropEnd_isPrefix (s t : Text) : dropEnd s t <+: t := by
  rw [dropEnd]
  cases h : beforeEnd? s t with
  | none => exact List.prefix_refl t
  | some r => exact ⟨s, (beforeEnd?_eq_some_iff.1 h).symm⟩

/-- **No line of a text holds a line feed.** -/
theorem newline_not_mem_lines {t l : Text} (hl : l ∈ lines t) : '\n' ∉ l := by
  obtain ⟨raw, hraw, rfl⟩ := List.mem_map.1 hl
  have hcut := (isCut_rawLines t).of_mem hraw
  unfold chopLine
  cases hcut with
  | last _ hnone =>
    have hend : beforeEnd? ['\n'] raw = none :=
      beforeEnd?_eq_none_iff.2 fun r hr => hnone (by simp [hr])
    rwa [hend]
  | @line body _ hbody _ =>
    have hend : beforeEnd? ['\n'] (body ++ ['\n']) = some body := beforeEnd?_eq_some_iff.2 rfl
    rw [hend]
    exact fun hmem => hbody ((dropEnd_isPrefix _ _).subset hmem)

/-- A number is written in digits. -/
theorem isDigit_of_mem_ofNat {n : Nat} {c : Char} (hc : c ∈ ofNat n) : c.isDigit = true :=
  Nat.isDigit_of_mem_toDigits (by decide) (by decide) hc

theorem newline_not_mem_ofNat (n : Nat) : '\n' ∉ ofNat n := fun hmem =>
  absurd (isDigit_of_mem_ofNat hmem) (by decide)

/-- The number that a text starts with. -/
def leadingNumber (t : Text) : Nat := Nat.ofDigitChars 10 (t.takeWhile Char.isDigit) 0

variable {t : Text}

/-- **A number is read up to the first character that is no digit.** -/
theorem leadingNumber_ofNat_append (n : Nat) (h : t.takeWhile Char.isDigit = []) :
    leadingNumber (ofNat n ++ t) = n := by
  have hdigits : ∀ c ∈ ofNat n, c.isDigit = true := fun _ hc => isDigit_of_mem_ofNat hc
  rw [leadingNumber, List.takeWhile_append_of_pos hdigits, h, List.append_nil]
  exact Nat.ofDigitChars_toDigits (by decide) (by decide)

theorem dropWhile_ofNat_append (n : Nat) (t : Text) :
    (ofNat n ++ t).dropWhile Char.isDigit = t.dropWhile Char.isDigit :=
  List.dropWhile_append_of_pos fun _ hc => isDigit_of_mem_ofNat hc

end Text
end Doctest
