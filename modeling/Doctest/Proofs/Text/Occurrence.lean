/-
# The first occurrence of a marker

A search that goes through a text from its start finds the text after the first occurrence of a
marker and no other (`Text.afterFirst?_eq_some_iff`), and finds nothing only if there is no
occurrence (`Text.afterFirst?_eq_none_iff`).
-/

import Doctest.Text.Basic

namespace Doctest
namespace Text

variable {marker t u v : Text}

/-- The text after the first occurrence of a marker. -/
def FollowsFirst (marker t u : Text) : Prop :=
  ∃ p, t = p ++ marker ++ u ∧ ∀ p' u', t = p' ++ marker ++ u' → p.length ≤ p'.length

/-- There is one text after the first occurrence. -/
theorem FollowsFirst.eq (hu : FollowsFirst marker t u) (hv : FollowsFirst marker t v) : u = v := by
  obtain ⟨p, hp, hpfirst⟩ := hu
  obtain ⟨q, hq, hqfirst⟩ := hv
  have hlength : p.length = q.length := Nat.le_antisymm (hpfirst q v hq) (hqfirst p u hp)
  rw [hp, List.append_assoc, List.append_assoc] at hq
  exact List.append_cancel_left (List.append_inj hq hlength).2

theorem followsFirst_of_afterFirst? (h : afterFirst? marker t = some u) :
    FollowsFirst marker t u := by
  induction t with
  | nil =>
    rw [afterFirst?] at h
    split at h
    · rename_i hmarker
      obtain rfl := Option.some.inj h
      exact ⟨[], by simp [hmarker], fun _ _ _ => Nat.zero_le _⟩
    · cases h
  | cons c t ih =>
    rw [afterFirst?] at h
    split at h
    · rename_i hstart
      obtain rfl := Option.some.inj h
      exact ⟨[], afterStart?_eq_some_iff.1 hstart, fun _ _ _ => Nat.zero_le _⟩
    · rename_i hstart
      obtain ⟨p, hp, hfirst⟩ := ih h
      refine ⟨c :: p, by rw [hp]; rfl, fun p' u' hp' => ?_⟩
      cases p' with
      | nil => cases hstart.symm.trans (afterStart?_eq_some_iff.2 hp')
      | cons d p' => exact Nat.succ_le_succ (hfirst p' u' (List.cons.inj hp').2)

/-- A marker that occurs is found. -/
theorem afterFirst?_ne_none (marker p u : Text) : afterFirst? marker (p ++ marker ++ u) ≠ none := by
  induction p with
  | nil =>
    have hstart : afterStart? marker (marker ++ u) = some u := afterStart?_eq_some_iff.2 rfl
    show afterFirst? marker (marker ++ u) ≠ none
    cases ht : marker ++ u with
    | nil =>
      rw [afterFirst?, if_pos (List.append_eq_nil_iff.1 ht).1]
      nofun
    | cons c t =>
      rw [ht] at hstart
      rw [afterFirst?, hstart]
      nofun
  | cons c p ih =>
    show afterFirst? marker (c :: (p ++ marker ++ u)) ≠ none
    rw [afterFirst?]
    split
    · nofun
    · exact ih

theorem afterFirst?_eq_none_iff : afterFirst? marker t = none ↔ ¬ marker <:+: t := by
  constructor
  · rintro h ⟨p, u, rfl⟩
    exact afterFirst?_ne_none marker p u h
  · intro h
    cases hu : afterFirst? marker t with
    | none => rfl
    | some u =>
      obtain ⟨p, hp, -⟩ := followsFirst_of_afterFirst? hu
      exact absurd ⟨p, u, hp.symm⟩ h

/-- **The search finds the first occurrence.** -/
theorem afterFirst?_eq_some_iff : afterFirst? marker t = some u ↔ FollowsFirst marker t u := by
  refine ⟨followsFirst_of_afterFirst?, fun hu => ?_⟩
  cases hv : afterFirst? marker t with
  | none =>
    obtain ⟨p, hp, -⟩ := hu
    exact absurd ⟨p, u, hp.symm⟩ (afterFirst?_eq_none_iff.1 hv)
  | some v => rw [(followsFirst_of_afterFirst? hv).eq hu]

end Text
end Doctest
