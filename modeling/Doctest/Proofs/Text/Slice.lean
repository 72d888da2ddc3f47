/-
# Slices by bytes

A slice names the byte where it starts and the byte where it stops.  It is there only if both lie
between two characters of the text, or at an end, and the start is not past the stop.  So a slice is
the same as a way to write the text in three parts (`slice?_eq_some_iff`): offsets that come from
the lengths of parts always cut.
-/

import Doctest.Text.Basic

namespace Doctest
namespace Text

/-- The text after the first `n` bytes, when the cut does not fall inside a character. -/
def dropBytes? (t : Text) (n : Nat) : Option Text := (takeBytes? t n).map fun a => t.drop a.length

/-- The bytes from `start` on and before `stop`, when both cuts fall between characters. -/
def slice? (t : Text) (start stop : Nat) : Option Text :=
  if start ≤ stop then (dropBytes? t start).bind (takeBytes? · (stop - start)) else none

/-- A text without bytes is empty: every character has one at least. -/
theorem bytes_eq_zero_iff {t : Text} : bytes t = 0 ↔ t = [] := by
  cases t with
  | nil => simp
  | cons c t =>
    have := c.utf8Size_pos
    simp only [bytes_cons, reduceCtorEq, iff_false]
    omega

theorem bytes_pos_iff {t : Text} : 0 < bytes t ↔ t ≠ [] := by
  rw [Nat.pos_iff_ne_zero, ne_eq, bytes_eq_zero_iff]

/-- **The first bytes are the first of two parts** whose length they have. -/
theorem takeBytes?_eq_some_iff {t a : Text} {n : Nat} :
    takeBytes? t n = some a ↔ ∃ b, t = a ++ b ∧ bytes a = n := by
  induction t, n using takeBytes?.induct generalizing a with
  | case1 t =>
    constructor
    · intro h
      obtain rfl := Option.some.inj (takeBytes?.eq_1 t ▸ h)
      exact ⟨t, rfl, rfl⟩
    · rintro ⟨b, rfl, hb⟩
      rw [bytes_eq_zero_iff.1 hb]
      exact takeBytes?.eq_1 _
  | case2 n =>
    rw [takeBytes?]
    constructor
    · intro h; simp at h
    · rintro ⟨b, hb, hn⟩
      obtain ⟨rfl, -⟩ := List.append_eq_nil_iff.1 hb.symm
      simp at hn
  | case3 c t n hc ih =>
    rw [takeBytes?, if_pos hc, Option.map_eq_some_iff]
    constructor
    · rintro ⟨a', ha', rfl⟩
      obtain ⟨b, rfl, hb⟩ := ih.1 ha'
      exact ⟨b, rfl, by rw [bytes_cons, hb]; omega⟩
    · rintro ⟨b, hb, hn⟩
      cases a with
      | nil => simp at hn
      | cons d a' =>
        obtain ⟨rfl, rfl⟩ := List.cons.inj hb
        rw [bytes_cons] at hn
        exact ⟨a', ih.2 ⟨b, rfl, by omega⟩, rfl⟩
  | case4 c t n hc =>
    rw [takeBytes?, if_neg hc]
    constructor
    · intro h; simp at h
    · rintro ⟨b, hb, hn⟩
      cases a with
      | nil => simp at hn
      | cons d a' =>
        obtain ⟨rfl, -⟩ := List.cons.inj hb
        rw [bytes_cons] at hn
        omega

/-- **What is left after the first bytes is the second of two parts**, the first of which has their
length. -/
theorem dropBytes?_eq_some_iff {t b : Text} {n : Nat} :
    dropBytes? t n = some b ↔ ∃ a, t = a ++ b ∧ bytes a = n := by
  rw [dropBytes?, Option.map_eq_some_iff]
  constructor
  · rintro ⟨a, ha, rfl⟩
    obtain ⟨b, rfl, hn⟩ := takeBytes?_eq_some_iff.1 ha
    exact ⟨a, by rw [List.drop_left], hn⟩
  · rintro ⟨a, rfl, hn⟩
    exact ⟨a, takeBytes?_eq_some_iff.2 ⟨b, rfl, hn⟩, List.drop_left⟩

/-- **A slice is the middle of three parts**, and its offsets are the lengths of what comes before
its ends. -/
theorem slice?_eq_some_iff {t m : Text} {start stop : Nat} :
    slice? t start stop = some m ↔
      ∃ a b, t = a ++ m ++ b ∧ start = bytes a ∧ stop = bytes a + bytes m := by
  unfold slice?
  constructor
  · intro h
    split at h
    · rename_i hle
      obtain ⟨r, hr, hm⟩ := Option.bind_eq_some_iff.1 h
      obtain ⟨a, rfl, ha⟩ := dropBytes?_eq_some_iff.1 hr
      obtain ⟨b, rfl, hb⟩ := takeBytes?_eq_some_iff.1 hm
      exact ⟨a, b, by rw [List.append_assoc], ha.symm, by omega⟩
    · simp at h
  · rintro ⟨a, b, rfl, rfl, rfl⟩
    rw [if_pos (Nat.le_add_right ..), Nat.add_sub_cancel_left, List.append_assoc,
      dropBytes?_eq_some_iff.2 ⟨a, rfl, rfl⟩, Option.bind_some]
    exact takeBytes?_eq_some_iff.2 ⟨b, rfl, rfl⟩

end Text
end Doctest
