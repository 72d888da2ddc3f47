/-
# What a memo answers over time

A memo is used again and again, and what it does is told by the uses before:

| use | before it | runs the supplier | answers |
| --- | --- | --- | --- |
| `get` | only looks | once | what was supplied |
| `get` | a `get`, no `set` | no | what was supplied |
| `get` | a `set` | no | the value set last |
| `isCached` | only looks, or more | no | whether there was more |
| `describe` | only looks, or more | no | the text of no value, or of what `get` would answer |

A *look* is a use by `isCached` or `describe`.  The supplier acts on a state of its own, so what it
supplies may change from run to run.  It is made to write down what it returns, and so every run of
it is on record (`Memo.watched`).  The value that a memo has after some uses is the one that their
record names (`Memo.value_after`), which leaves nothing to show but the table (`Memo.remembers`).
-/

import Doctest.Memo
import Doctest.Proofs.Host.Recorded
import Mathlib.Data.List.Induction

namespace Doctest
namespace Memo

variable {α σ : Type}

/-! ## Uses and their records -/

/-- What is done with a memo. -/
inductive Use (α : Type) where
  | get
  | set (v : α)
  | isCached
  | describe

/-- What a use answers. -/
inductive Answer (α : Type) where
  | value (v : α)
  | done
  | cached (known : Bool)
  | shown (t : Text)

/-- A use with what it answered, and what the supplier returned in it, once for each time it ran. -/
structure Record (α : Type) where
  use : Use α
  answer : Answer α
  supplied : List α

namespace Use

/-- Whether the use only looks at the memo. -/
def isLook : Use α → Bool
  | .isCached | .describe => true
  | .get | .set _ => false

/-- The value that the use sets. -/
def set? : Use α → Option α
  | .set v => some v
  | _ => none

/-- The use of a memo whose values have a text. -/
def perform {m : Type → Type} [Monad m] (render : α → Text) (x : Memo m α) :
    Use α → m (Answer α × Memo m α)
  | .get => do
    let (v, x) ← x.get
    return (.value v, x)
  | .set v => return (.done, x.set v)
  | .isCached => return (.cached x.isCached, x)
  | .describe => return (.shown (x.describe render), x)

end Use

/-- A memo without a value, whose supplier writes down what it returns. -/
def watched (supplier : StateM σ α) : Memo (Traced α σ) α := new (.event supplier id)

section History

variable (render : α → Text)

/-- What a use comes to, from a state on. -/
def outcome (u : Use α) (x : Memo (Traced α σ) α) (s : σ) :
    Traced.Outcome α σ (Answer α × Memo (Traced α σ) α) :=
  (u.perform render x).run s

/-- The records of some uses one after the other. -/
def history : List (Use α) → Memo (Traced α σ) α → σ → List (Record α)
  | [], _, _ => []
  | u :: us, x, s =>
    let o := outcome render u x s
    ⟨u, o.value.1, o.events⟩ :: history us o.value.2 o.after

/-- The memo after some uses, and the state of its supplier. -/
def after : List (Use α) → Memo (Traced α σ) α → σ → Memo (Traced α σ) α × σ
  | [], x, s => (x, s)
  | u :: us, x, s => after us (outcome render u x s).value.2 (outcome render u x s).after

end History

/-- The value that a record names: the one set last, or else the one supplied first. -/
def known? (rs : List (Record α)) : Option α :=
  (rs.filterMap (·.use.set?)).getLast? <|> (rs.flatMap Record.supplied).head?

/-- The text of a memo with the value, if there is one. -/
def shownText (render : α → Text) (v? : Option α) : Text :=
  "Memo \x7b value: ".toList ++
    v?.elim "None".toList (fun v => "Some(".toList ++ render v ++ ")".toList) ++ " \x7d".toList

/-- What a use does is told by the records before it. -/
structure Record.Follows (render : α → Text) (before : List (Record α)) (r : Record α) : Prop where
  /-- The supplier runs only for the first `get`, and only before every `set`. -/
  supplies : r.supplied ≠ [] ↔ r.use = .get ∧ ∀ q ∈ before, q.use.isLook = true
  /-- There is a value exactly after a `get` or a `set`. -/
  known : (known? before).isSome = true ↔ ∃ q ∈ before, q.use.isLook = false
  got : r.use = .get → ∃ v, known? (before ++ [r]) = some v ∧ r.answer = .value v
  cached : r.use = .isCached → r.answer = .cached (known? before).isSome
  shows : r.use = .describe → r.answer = .shown (shownText render (known? before))

/-! ## One use -/

section Step

variable {render : α → Text} {supplier : StateM σ α} {x : Memo (Traced α σ) α}

theorem describe_eq (x : Memo (Traced α σ) α) : x.describe render = shownText render x.value := by
  obtain ⟨value, supplier⟩ := x
  cases value <;> rfl

/-- A look changes nothing. -/
theorem outcome_of_look (render : α → Text) {u : Use α} (hu : u.isLook = true)
    (x : Memo (Traced α σ) α) (s : σ) : ∃ a, outcome render u x s = ⟨(a, x), [], s⟩ := by
  cases u with
  | get => cases hu
  | set v => cases hu
  | isCached => exact ⟨_, rfl⟩
  | describe => exact ⟨_, rfl⟩

theorem outcome_set (v : α) (x : Memo (Traced α σ) α) (s : σ) :
    outcome render (.set v) x s = ⟨(.done, x.set v), [], s⟩ := rfl

/-- **A `get` answers the value**, and knows it from then on. -/
theorem outcome_get_of_some {v : α} (hx : x.value = some v) (s : σ) :
    outcome render .get x s = ⟨(.value v, x), [], s⟩ := by
  obtain ⟨value, act⟩ := x
  cases hx
  rfl

/-- **Without a value a `get` runs the supplier.** -/
theorem outcome_get_of_none (hx : x.value = none) (hsupplier : x.supplier = .event supplier id)
    (s : σ) : outcome render .get x s =
      ⟨(.value (supplier.run s).1, x.set (supplier.run s).1), [(supplier.run s).1],
        (supplier.run s).2⟩ := by
  obtain ⟨value, act⟩ := x
  cases hx
  cases hsupplier
  rfl

/-- **The supplier runs for a `get` without a value**, and for no other use. -/
theorem outcome_events_ne_nil_iff (hsupplier : x.supplier = .event supplier id)
    (u : Use α) (s : σ) :
    (outcome render u x s).events ≠ [] ↔ u = .get ∧ x.value = none := by
  cases u with
  | get =>
    cases hx : x.value with
    | none =>
      rw [outcome_get_of_none hx hsupplier]
      exact iff_of_true (List.cons_ne_nil _ _) ⟨rfl, rfl⟩
    | some v =>
      rw [outcome_get_of_some hx]
      exact iff_of_false (absurd rfl) nofun
  | set v => exact iff_of_false (absurd rfl) nofun
  | isCached => exact iff_of_false (absurd rfl) nofun
  | describe => exact iff_of_false (absurd rfl) nofun

/-- The value after a use is the one that was set, or else the one that was there or was
supplied. -/
theorem outcome_value (render : α → Text) (hsupplier : x.supplier = .event supplier id) (u : Use α)
    (s : σ) :
    (outcome render u x s).value.2.supplier = .event supplier id ∧
      (outcome render u x s).value.2.value =
        (u.set? <|> x.value <|> (outcome render u x s).events.head?) := by
  have hlook : x.value = (none <|> x.value <|> none) := by cases x.value <;> rfl
  cases u with
  | get =>
    cases hx : x.value with
    | none =>
      rw [outcome_get_of_none hx hsupplier]
      exact ⟨hsupplier, rfl⟩
    | some v =>
      rw [outcome_get_of_some hx]
      exact ⟨hsupplier, hx⟩
  | set v => exact ⟨hsupplier, rfl⟩
  | isCached => exact ⟨hsupplier, hlook⟩
  | describe => exact ⟨hsupplier, hlook⟩

end Step

/-! ## Histories -/

section History

variable {render : α → Text} {supplier : StateM σ α} {x : Memo (Traced α σ) α}

@[simp] theorem map_use_history (render : α → Text) (us : List (Use α)) (x : Memo (Traced α σ) α)
    (s : σ) : (history render us x s).map Record.use = us := by
  induction us generalizing x s with
  | nil => rfl
  | cons u us ih => exact congrArg (u :: ·) (ih _ _)

/-- **A history goes on** with the memo that the uses so far have left. -/
theorem history_append (us vs : List (Use α)) (x : Memo (Traced α σ) α) (s : σ) :
    history render (us ++ vs) x s = history render us x s ++
      history render vs (after render us x s).1 (after render us x s).2 := by
  induction us generalizing x s with
  | nil => rfl
  | cons u us ih => exact congrArg (_ :: ·) (ih _ _)

theorem after_append (us vs : List (Use α)) (x : Memo (Traced α σ) α) (s : σ) :
    after render (us ++ vs) x s =
      after render vs (after render us x s).1 (after render us x s).2 := by
  induction us generalizing x s with
  | nil => rfl
  | cons u us ih => exact ih _ _

/-- Looks change nothing, however many there are. -/
theorem history_of_looks (render : α → Text) {us : List (Use α)} (hus : ∀ u ∈ us, u.isLook = true)
    (x : Memo (Traced α σ) α) (s : σ) :
    after render us x s = (x, s) ∧ ∀ r ∈ history render us x s, r.supplied = [] := by
  induction us generalizing x s with
  | nil => exact ⟨rfl, List.forall_mem_nil _⟩
  | cons u us ih =>
    obtain ⟨hu, hus⟩ := List.forall_mem_cons.1 hus
    obtain ⟨a, ho⟩ := outcome_of_look render hu x s
    rw [after, history, ho]
    exact ⟨(ih hus x s).1, List.forall_mem_cons.2 ⟨rfl, (ih hus x s).2⟩⟩

/-- The last record has the last word on the value. -/
theorem known?_concat (rs : List (Record α)) (r : Record α) :
    known? (rs ++ [r]) = (r.use.set? <|> known? rs <|> r.supplied.head?) := by
  unfold known?
  rw [List.filterMap_append, List.flatMap_append, List.flatMap_singleton, List.getLast?_append,
    List.head?_append]
  simp only [List.filterMap_cons, List.filterMap_nil]
  cases r.use.set? with
  | none =>
    cases (rs.filterMap (·.use.set?)).getLast? with
    | none => cases (rs.flatMap Record.supplied).head? <;> rfl
    | some v => rfl
  | some v => rfl

/-- **The value after some uses is the one that their record names**, and it is there if one of them
was no look. -/
theorem value_after (render : α → Text) (supplier : StateM σ α) (us : List (Use α)) (s : σ) :
    (after render us (watched supplier) s).1.supplier = .event supplier id ∧
      (after render us (watched supplier) s).1.value =
        known? (history render us (watched supplier) s) := by
  induction us using List.reverseRecOn with
  | nil => exact ⟨rfl, rfl⟩
  | append_singleton us u ih =>
    obtain ⟨hsupplier, hvalue⟩ := ih
    rw [after_append, history_append]
    show (outcome render u _ _).value.2.supplier = _ ∧ (outcome render u _ _).value.2.value =
      known? (_ ++ [⟨u, _, (outcome render u _ _).events⟩])
    obtain ⟨hnext, hknown⟩ := outcome_value render hsupplier u
      (after render us (watched supplier) s).2
    rw [known?_concat, ← hvalue]
    exact ⟨hnext, hknown⟩

/-- A record in a history is that of its use, with the memo that the uses before it have left. -/
theorem history_split {us : List (Use α)} {s : σ} {before later : List (Record α)} {r : Record α}
    (h : history render us x s = before ++ r :: later) :
    ∃ earlier u, let o := after render earlier x s
      before = history render earlier x s ∧
        r = ⟨u, (outcome render u o.1 o.2).value.1, (outcome render u o.1 o.2).events⟩ := by
  have hus : us = before.map Record.use ++ r.use :: later.map Record.use := by
    rw [← map_use_history render us x s, h, List.map_append, List.map_cons]
  rw [hus, history_append] at h
  obtain ⟨hbefore, hrest⟩ := List.append_inj h (by
    rw [← List.length_map Record.use, map_use_history, List.length_map])
  exact ⟨before.map Record.use, r.use, hbefore.symm, (List.cons.inj hrest).1.symm⟩

/-- **The supplier runs once at most**, where it was at the start, and not before there is a value.
There is one exactly after a use that was no look. -/
theorem supplied_history (render : α → Text) (supplier : StateM σ α) (us : List (Use α)) (s : σ) :
    let o := after render us (watched supplier) s
    let supplied := (history render us (watched supplier) s).flatMap Record.supplied
    (o.1.value.isSome = true ↔ ∃ u ∈ us, u.isLook = false) ∧
      (o.1.value = none → o.2 = s ∧ supplied = []) ∧
      (supplied = [] ∨ supplied = [(supplier.run s).1]) := by
  induction us using List.reverseRecOn with
  | nil => exact ⟨iff_of_false nofun nofun, fun _ => ⟨rfl, rfl⟩, .inl rfl⟩
  | append_singleton us u ih =>
    dsimp only at ih ⊢
    obtain ⟨hsupplier, -⟩ := value_after render supplier us s
    simp only [after_append, history_append, List.flatMap_append, List.mem_append, or_and_right,
      exists_or, List.mem_singleton, exists_eq_left]
    generalize after render us (watched supplier) s = o at hsupplier ih ⊢
    obtain ⟨x, s'⟩ := o
    obtain ⟨hknown, hnone, hsupplied⟩ := ih
    simp only [after, history, List.flatMap_singleton]
    cases hu : u.isLook with
    | true =>
      obtain ⟨a, ho⟩ := outcome_of_look render hu x s'
      rw [ho, List.append_nil]
      exact ⟨hknown.trans (by simp), hnone, hsupplied⟩
    | false =>
      cases u with
      | isCached => cases hu
      | describe => cases hu
      | set v =>
        rw [outcome_set, List.append_nil]
        exact ⟨iff_of_true rfl (.inr rfl), nofun, hsupplied⟩
      | get =>
        cases hx : x.value with
        | none =>
          obtain ⟨rfl, hbefore⟩ := hnone hx
          rw [outcome_get_of_none hx hsupplier, hbefore]
          exact ⟨iff_of_true rfl (.inr rfl), nofun, .inr rfl⟩
        | some v =>
          rw [outcome_get_of_some hx, List.append_nil]
          refine ⟨iff_of_true (by rw [hx]; rfl) (.inr rfl), fun h => ?_, hsupplied⟩
          cases hx.symm.trans h

/-- **What a use does is told by the uses before it.** -/
theorem follows_history {us : List (Use α)} {s : σ} {before later : List (Record α)} {r : Record α}
    (h : history render us (watched supplier) s = before ++ r :: later) :
    r.Follows render before := by
  obtain ⟨earlier, u, rfl, rfl⟩ := history_split h
  obtain ⟨hsupplier, hvalue⟩ := value_after render supplier earlier s
  obtain ⟨htouched, -, -⟩ := supplied_history render supplier earlier s
  have huses := map_use_history render earlier (watched supplier) s
  generalize history render earlier (watched supplier) s = rs at hvalue huses ⊢
  generalize after render earlier (watched supplier) s = o at hsupplier hvalue htouched ⊢
  obtain ⟨x, s'⟩ := o
  subst huses
  dsimp only at hsupplier hvalue htouched ⊢
  have hknown : x.value.isSome = true ↔ ∃ q ∈ rs, q.use.isLook = false := by
    simp [htouched]
  have hlooks : (∀ q ∈ rs, q.use.isLook = true) ↔ x.value = none := by
    rw [← Option.not_isSome_iff_eq_none, hknown]
    simp
  refine ⟨?_, hvalue ▸ hknown, ?_, ?_, ?_⟩
  · rw [hlooks]
    exact outcome_events_ne_nil_iff hsupplier u s'
  · rintro rfl
    rw [known?_concat, ← hvalue]
    cases hx : x.value with
    | none =>
      rw [outcome_get_of_none hx hsupplier]
      exact ⟨_, rfl, rfl⟩
    | some v =>
      rw [outcome_get_of_some hx]
      exact ⟨v, rfl, rfl⟩
  · rintro rfl
    exact congrArg (Answer.cached ·.isSome) hvalue
  · rintro rfl
    exact congrArg Answer.shown ((describe_eq x).trans (congrArg (shownText render) hvalue))

/-- **A memo remembers.**  Over any uses of a memo the supplier runs once at most, and only for a
`get` before every `set`.  Each `get` answers the value set last before it, or else what was
supplied.  Whether there is a value, and the text of the memo, tell whether there was a `get` or a
`set` before.  Looks anywhere among the uses supply nothing and change no record of another use. -/
theorem remembers (render : α → Text) (supplier : StateM σ α) (uses : List (Use α)) (s : σ) :
    let rs := history render uses (watched supplier) s
    rs.map Record.use = uses ∧
      (rs.flatMap Record.supplied = [] ∨ rs.flatMap Record.supplied = [(supplier.run s).1]) ∧
      (∀ before r later, rs = before ++ r :: later → r.Follows render before) ∧
      ∀ before looks later, uses = before ++ later → (∀ u ∈ looks, u.isLook = true) →
        ∃ first noted last, rs = first ++ last ∧ first.map Record.use = before ∧
          noted.map Record.use = looks ∧ (∀ r ∈ noted, r.supplied = []) ∧
          history render (before ++ looks ++ later) (watched supplier) s =
            first ++ noted ++ last := by
  refine ⟨map_use_history _ _ _ _, (supplied_history render supplier uses s).2.2,
    fun _ _ _ => follows_history, ?_⟩
  rintro before looks later rfl hlooks
  obtain ⟨hafter, hnoted⟩ := history_of_looks render hlooks
    (after render before (watched supplier) s).1 (after render before (watched supplier) s).2
  refine ⟨_, _, _, history_append before later _ s, map_use_history _ _ _ _,
    map_use_history render looks _ _, hnoted, ?_⟩
  rw [history_append, history_append, after_append, hafter]

end History

/-- A supplier that counts how often it was asked. -/
def counter : StateM Nat Nat := fun n => (n + 1, n + 1)

/-- Two looks, a first and a second `get`, a value that is set, and one more `get`. -/
theorem remembers_counter :
    let uses : List (Use Nat) := [.isCached, .describe, .get, .get, .set 7, .get]
    let rs := history Text.ofNat uses (watched counter) 0
    (∃ before r later, rs = before ++ r :: later ∧ before.length = 3 ∧ r.use = .get ∧
        known? (before ++ [r]) = some 1 ∧ r.Follows Text.ofNat before) ∧
      rs.flatMap Record.supplied = [1] ∧
      ∃ first noted last, rs = first ++ last ∧ noted.map Record.use = [Use.isCached] ∧
        history Text.ofNat [.isCached, .describe, .get, .get, .isCached, .set 7, .get]
          (watched counter) 0 = first ++ noted ++ last := by
  intro uses rs
  obtain ⟨-, hsupplied, hfollows, hlooks⟩ := remembers Text.ofNat counter uses 0
  refine ⟨?_, hsupplied.resolve_left (List.cons_ne_nil _ _), ?_⟩
  · have hsplit : rs = rs.take 3 ++ ⟨.get, .value 1, []⟩ :: rs.drop 4 := rfl
    exact ⟨_, _, _, hsplit, rfl, rfl, rfl, hfollows _ _ _ hsplit⟩
  · obtain ⟨first, noted, last, hrs, -, hnoted, -, hall⟩ :=
      hlooks [.isCached, .describe, .get, .get] [.isCached] [.set 7, .get] rfl
        (List.forall_mem_singleton.2 rfl)
    exact ⟨first, noted, last, hrs, hnoted, hall⟩

end Memo
end Doctest
