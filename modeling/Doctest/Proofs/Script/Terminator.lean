/-
# The terminator at the end of an output

Taking one terminator off an output can be undone in up to four ways (`Script.chomp_eq_iff`):

| output | taken off | unless |
| --- | --- | --- |
| `e\n` | `\n` | `e` ends in `\r`: then `\r\n` goes |
| `e\r\n` | `\r\n` | |
| `e\r` | `\r` | |
| `e` | nothing | `e` ends in `\n` or `\r` |

So it can be said by the last characters of the output alone which of them go
(`Script.chomp_eq_unterminated`).
-/

import Doctest.Script
import Doctest.Proofs.Text.Lines

namespace Doctest
namespace Script

/-- The output less its last two characters if these are `\r\n`, less the last one if that is `\n`
or `\r`, and as it is otherwise. -/
def unterminated (output : Text) : Text :=
  if ['\r', '\n'] <:+ output then output.dropLast.dropLast
  else if output.getLast? = some '\n' ∨ output.getLast? = some '\r' then output.dropLast
  else output

variable {output e : Text}

theorem chomp_crlf (e : Text) : chomp (e ++ ['\r', '\n']) = e := by
  rw [chomp, Text.beforeEnd?_eq_some_iff.2 rfl]

/-- A line feed goes alone, unless a carriage return stands before it. -/
theorem chomp_newline (h : e.getLast? ≠ some '\r') : chomp (e ++ ['\n']) = e := by
  have hcrlf : Text.beforeEnd? ['\r', '\n'] (e ++ ['\n']) = none := by
    refine Text.beforeEnd?_eq_none_iff.2 fun r hr => h ?_
    have he : e ++ ['\n'] = (r ++ ['\r']) ++ ['\n'] := by simp [hr]
    rw [List.append_cancel_right he, List.getLast?_concat]
  rw [chomp, hcrlf, Text.beforeEnd?_eq_some_iff.2 rfl]

theorem chomp_return (e : Text) : chomp (e ++ ['\r']) = e := by
  have hcrlf : Text.beforeEnd? ['\r', '\n'] (e ++ ['\r']) = none :=
    Text.beforeEnd?_eq_none (by simp) (by simp)
  have hfeed : Text.beforeEnd? ['\n'] (e ++ ['\r']) = none :=
    Text.beforeEnd?_eq_none (by simp) (by simp)
  rw [chomp, hcrlf, hfeed]
  simp only [Text.dropEnd, Text.beforeEnd?_eq_some_iff.2 rfl, Option.getD_some]

/-- A text without a terminator at its end stays. -/
theorem chomp_eq_self (hfeed : e.getLast? ≠ some '\n') (hreturn : e.getLast? ≠ some '\r') :
    chomp e = e := by
  have h₁ : Text.beforeEnd? ['\r', '\n'] e = none := Text.beforeEnd?_eq_none (by simp) (by simpa)
  have h₂ : Text.beforeEnd? ['\n'] e = none := Text.beforeEnd?_eq_none (by simp) (by simpa)
  have h₃ : Text.beforeEnd? ['\r'] e = none := Text.beforeEnd?_eq_none (by simp) (by simpa)
  rw [chomp, h₁, h₂]
  simp only [Text.dropEnd, h₃, Option.getD_none]

/-- **What an output was before its terminator was taken off.** -/
theorem chomp_eq_iff :
    chomp output = e ↔
      output = e ++ ['\r', '\n'] ∨
      output = e ++ ['\n'] ∧ e.getLast? ≠ some '\r' ∨
      output = e ++ ['\r'] ∨
      output = e ∧ e.getLast? ≠ some '\n' ∧ e.getLast? ≠ some '\r' := by
  constructor
  · intro h
    unfold chomp at h
    split at h
    · rename_i t ht
      subst h
      exact .inl (Text.beforeEnd?_eq_some_iff.1 ht)
    · rename_i hnocrlf
      split at h
      · rename_i t ht
        subst h
        have houtput := Text.beforeEnd?_eq_some_iff.1 ht
        refine .inr (.inl ⟨houtput, fun hlast => ?_⟩)
        obtain ⟨r, rfl⟩ := List.getLast?_eq_some_iff.1 hlast
        exact Text.beforeEnd?_eq_none_iff.1 hnocrlf r (by simp [houtput])
      · rename_i hnofeed
        unfold Text.dropEnd at h
        cases hreturn : Text.beforeEnd? ['\r'] output with
        | some t =>
          rw [hreturn] at h
          obtain rfl : t = e := h
          exact .inr (.inr (.inl (Text.beforeEnd?_eq_some_iff.1 hreturn)))
        | none =>
          rw [hreturn] at h
          obtain rfl : output = e := h
          refine .inr (.inr (.inr ⟨rfl, fun hlast => ?_, fun hlast => ?_⟩))
          · obtain ⟨r, hr⟩ := List.getLast?_eq_some_iff.1 hlast
            exact Text.beforeEnd?_eq_none_iff.1 hnofeed r hr
          · obtain ⟨r, hr⟩ := List.getLast?_eq_some_iff.1 hlast
            exact Text.beforeEnd?_eq_none_iff.1 hreturn r hr
  · rintro (rfl | ⟨rfl, hreturn⟩ | rfl | ⟨rfl, hfeed, hreturn⟩)
    · exact chomp_crlf e
    · exact chomp_newline hreturn
    · exact chomp_return e
    · exact chomp_eq_self hfeed hreturn

/-- **Which characters go** is said by the last ones of the output. -/
theorem chomp_eq_unterminated (output : Text) : chomp output = unterminated output := by
  rw [chomp_eq_iff, unterminated]
  split
  · rename_i hcrlf
    obtain ⟨t, rfl⟩ := hcrlf
    exact .inl (by simp)
  · rename_i hcrlf
    split
    · rename_i hlast
      have hback : ∀ c, output.getLast? = some c → output = output.dropLast ++ [c] := by
        intro c hc
        obtain ⟨t, rfl⟩ := List.getLast?_eq_some_iff.1 hc
        rw [List.dropLast_concat]
      rcases hlast with hlast | hlast
      · refine .inr (.inl ⟨hback _ hlast, fun hreturn => hcrlf ?_⟩)
        obtain ⟨r, hr⟩ := List.getLast?_eq_some_iff.1 hreturn
        rw [hback _ hlast, hr]
        exact ⟨r, by simp⟩
      · exact .inr (.inr (.inl (hback _ hlast)))
    · rename_i hlast
      rw [not_or] at hlast
      exact .inr (.inr (.inr ⟨rfl, hlast.1, hlast.2⟩))

end Script
end Doctest
