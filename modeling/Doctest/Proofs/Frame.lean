/-
# Calls that keep a frame

The commands run in any monad, so that what they call may keep a state of its own and may end
everything on the spot.  A frame says what such calls keep: an assertion about the state and the
text that was shown so far, true before and after each of them, and what is true where one ends
everything.

| call | comes back, still in the frame, with |
| --- | --- |
| *tells* `p` | a value and some more text shown, which `p` relates |
| *yields* `p` | a value that has `p`, whatever was shown |

Calls one after the other show one text after the other (`Frame.Tells.bind`).  With the weakest
frame nothing is known of the states, and with `stops` false no call ever ends everything: a call
that tells something then always comes back.
-/

import Mathlib
import Doctest.Text.Basic

namespace Doctest

open Std.Do

/-- An assertion that calls keep, with the text that was shown so far, and what is true where a call
ends everything. -/
structure Frame (ps : PostShape) where
  holds : Text → Assertion ps
  stops : ExceptConds ps

namespace Frame

variable {m : Type → Type} {ps : PostShape} [Monad m] [WPMonad m ps] {F : Frame ps} {α β : Type}

/-- In the frame the call shows some text and comes back with a value, which are so related, and
keeps the frame. -/
def Tells (F : Frame ps) (call : m α) (p : Text → α → Prop) : Prop :=
  ∀ shown, ⦃F.holds shown⦄ call
    ⦃(fun a => spred(∃ t, ⌜p t a⌝ ∧ F.holds (shown ++ t)), F.stops)⦄

/-- In the frame the call comes back with a value that has the property, and keeps the frame. -/
def Yields (F : Frame ps) (call : m α) (p : α → Prop) : Prop := F.Tells call fun _ => p

theorem tells_pure {p : Text → α → Prop} {a : α} (h : p [] a) : F.Tells (pure a : m α) p := by
  intro shown
  refine Triple.pure a (SPred.exists_intro' [] (SPred.and_intro (SPred.pure_intro h) ?_))
  rw [List.append_nil]

/-- **Calls one after the other keep the frame**, and show one text after the other. -/
theorem Tells.bind {call : m α} {next : α → m β} {p : Text → α → Prop} {q : Text → β → Prop}
    (hcall : F.Tells call p) (hnext : ∀ t a, p t a → F.Tells (next a) fun t' => q (t ++ t')) :
    F.Tells (call >>= next) q := by
  intro shown
  refine Triple.bind call next (hcall shown) fun a => Triple.iff.2 ?_
  refine SPred.exists_elim fun t => SPred.pure_elim_l fun ha => ?_
  refine (Triple.iff.1 (hnext t a ha (shown ++ t))).trans ?_
  refine (wp (next a)).mono _ _ ⟨fun b => SPred.exists_elim fun t' => ?_, ExceptConds.entails.rfl⟩
  refine SPred.exists_intro' (t ++ t') ?_
  rw [List.append_assoc]

theorem Tells.mono {call : m α} {p q : Text → α → Prop} (hcall : F.Tells call p)
    (h : ∀ t a, p t a → q t a) : F.Tells call q := by
  rw [← bind_pure call]
  refine hcall.bind fun t a ha => tells_pure ?_
  rw [List.append_nil]
  exact h t a ha

theorem yields_pure {p : α → Prop} {a : α} (h : p a) : F.Yields (pure a : m α) p := tells_pure h

theorem Yields.bind {call : m α} {next : α → m β} {p : α → Prop} {q : β → Prop}
    (hcall : F.Yields call p) (hnext : ∀ a, p a → F.Yields (next a) q) :
    F.Yields (call >>= next) q := Tells.bind hcall fun _ a ha => hnext a ha

theorem Yields.mono {call : m α} {p q : α → Prop} (hcall : F.Yields call p)
    (h : ∀ a, p a → q a) : F.Yields call q := Tells.mono hcall fun _ => h

/-- The frame of a monad without effects, in which every call comes back. -/
def trivial : Frame .pure := ⟨fun _ => ⌜True⌝, ()⟩

theorem tells_trivial_iff {call : Id α} {p : Text → α → Prop} :
    trivial.Tells call p ↔ ∃ t, p t call.run := by
  simp [Tells, trivial, Triple.iff, wp]

theorem yields_trivial_iff {call : Id α} {p : α → Prop} : trivial.Yields call p ↔ p call.run := by
  rw [Yields, tells_trivial_iff, exists_const]

end Frame
end Doctest
