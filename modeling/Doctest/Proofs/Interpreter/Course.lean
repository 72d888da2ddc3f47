/-
# The course of a run

Of the calls of a run only some are *marked*, because they matter to what becomes of a child: those
that start or kill one, that wait for one, or that find its end.  Whatever the operating system
answers, the marked calls of a run are, in this order:

| what becomes of the child | marked calls |
| --- | --- |
| there is none | none |
| its start is refused | `spawn` |
| its end is found, by waiting or by a look | `spawn`, that call |
| its input, a look or the clock fails, or the time is up | `spawn`, `kill`, `wait` |
| waiting for it fails | `spawn`, `wait`, `kill`, `wait` |

All that a caller wants to know of a run (`Tidy`) is read off this table: no child is left alone,
none is killed twice, and none after its status was collected, when its number may be another one's
(`Course.tidy`).  The time is up only when a look at or after the deadline has found the child
running (`TimesOut`).
-/

import Doctest.Proofs.Interpreter.Launch

namespace Doctest

open List

namespace Host.Call

/-- Whether the call starts a child, or tries to. -/
def isSpawn : Host.Call → Bool
  | .spawn .. => true
  | _ => false

/-- Whether the call kills a child. -/
def isKill : Host.Call → Bool
  | .kill _ => true
  | _ => false

/-- The child whose status the call collects. -/
def collected? : Host.Call → Option Pid
  | .wait p (.ok _) => some p
  | .poll p ⟨.ok (some _), _⟩ => some p
  | _ => none

/-- Whether the call matters to what becomes of a child. -/
def isMarked : Host.Call → Bool
  | .spawn .. | .kill _ | .wait .. | .poll _ ⟨.ok (some _), _⟩ => true
  | _ => false

/-- The nanoseconds that pass with the call, as far as a run counts them. -/
def time : Host.Call → Nat
  | .poll _ seen => seen.took
  | .pause late => pollInterval + late
  | _ => 0

/-- The nanoseconds that pass with some calls. -/
def elapsed : List Host.Call → Nat
  | [] => 0
  | c :: cs => c.time + elapsed cs

@[simp] theorem elapsed_nil : elapsed [] = 0 := rfl

@[simp] theorem elapsed_cons (c : Host.Call) (cs : List Host.Call) :
    elapsed (c :: cs) = c.time + elapsed cs := rfl

theorem isMarked_of_isSpawn {c : Host.Call} (h : c.isSpawn = true) : c.isMarked = true := by
  cases c <;> first | rfl | cases h

theorem isMarked_of_isKill {c : Host.Call} (h : c.isKill = true) : c.isMarked = true := by
  cases c <;> first | rfl | cases h

theorem isMarked_of_collected? {c : Host.Call} (h : c.collected? ≠ none) : c.isMarked = true := by
  unfold collected? at h
  split at h
  · rfl
  · rfl
  · exact absurd rfl h

/-- What does not matter to a child collects no status. -/
theorem collected?_eq_none {c : Host.Call} (h : c.isMarked = false) : c.collected? = none := by
  cases hc : c.collected? with
  | none => rfl
  | some p =>
    rw [isMarked_of_collected? (by simp [hc])] at h
    cases h

/-- Looking at what is there does not matter to a child. -/
theorem isMarked_of_isLookup {c : Host.Call} (h : c.isLookup = true) : c.isMarked = false := by
  cases c <;> first | rfl | cases h

/-- A call that collects a status is no start and no kill. -/
theorem isSpawn_isKill_of_collected? {c : Host.Call} {p : Pid} (h : c.collected? = some p) :
    c.isSpawn = false ∧ c.isKill = false := by
  cases c <;> first | exact ⟨rfl, rfl⟩ | cases h

end Host.Call

open Host.Call

/-! ## What a caller wants to know of a run -/

/-- Nothing is left behind: at most one child is started, it is reaped, and it is killed at most
once and never after its status was collected. -/
structure Tidy (calls : List Host.Call) : Prop where
  one_spawn : calls.countP isSpawn ≤ 1
  one_kill : calls.countP isKill ≤ 1
  /-- Only a child that was started is killed. -/
  kill_started : ∀ p, .kill p ∈ calls → ∃ launch, [.spawn launch (.ok p), .kill p] <+ calls
  /-- No child is killed once a status has been collected. -/
  kill_first : calls.Pairwise fun c d => c.collected? ≠ none → d.isKill = false
  /-- The status of a child that was started is collected, or it is killed and then waited for. -/
  reaped : ∀ launch p, .spawn launch (.ok p) ∈ calls →
    (∃ c, c.collected? = some p ∧ [.spawn launch (.ok p), c] <+ calls) ∨
      ∃ answer, [.spawn launch (.ok p), .kill p, .wait p answer] <+ calls

/-- The time is up: the time limit has passed since the clock was read before the first look at the
child, a look then finds the child running, and it is killed.  No look has found its end. -/
structure TimesOut (limit : Duration) (calls : List Host.Call) : Prop where
  reached : ∃ before start looks p took rest,
    calls = before ++ .now start :: (looks ++ .poll p ⟨.ok none, took⟩ :: .kill p :: rest) ∧
      limit.toNanos ≤ elapsed looks + took
  unseen : ∀ p status took, .poll p ⟨.ok (some status), took⟩ ∉ calls

/-! ## Courses -/

/-- The marked calls that tend a child to its end. -/
inductive Reaps (p : Pid) : List Host.Call → Prop
  | collects {c : Host.Call} : c.collected? = some p → Reaps p [c]
  | kills {answer : Except IoError ExitStatus} : Reaps p [.kill p, .wait p answer]
  | waits {e : IoError} {answer : Except IoError ExitStatus} :
      Reaps p [.wait p (.error e), .kill p, .wait p answer]

/-- The marked calls of a run. -/
inductive Course : List Host.Call → Prop
  | idle : Course []
  | refused {launch : Launch} {e : IoError} : Course [.spawn launch (.error e)]
  | tended {launch : Launch} {p : Pid} {tending : List Host.Call} : Reaps p tending →
      Course (.spawn launch (.ok p) :: tending)

/-- What is left of some calls. -/
def marked (calls : List Host.Call) : List Host.Call := calls.filter isMarked

@[simp] theorem marked_append (cs ds : List Host.Call) :
    marked (cs ++ ds) = marked cs ++ marked ds := filter_append cs ds

theorem marked_cons_of_pos {c : Host.Call} (h : c.isMarked = true) (cs : List Host.Call) :
    marked (c :: cs) = c :: marked cs := filter_cons_of_pos h

theorem marked_eq_nil {cs : List Host.Call} (h : ∀ c ∈ cs, c.isMarked = false) : marked cs = [] :=
  filter_eq_nil_iff.2 fun c hc => by simp [h c hc]

theorem marked_surrounded {before after : List Host.Call} (calls : List Host.Call)
    (hbefore : ∀ c ∈ before, c.isMarked = false) (hafter : ∀ c ∈ after, c.isMarked = false) :
    marked (before ++ calls ++ after) = marked calls := by
  rw [marked_append, marked_append, marked_eq_nil hbefore, marked_eq_nil hafter, nil_append,
    append_nil]

/-- Calls of a marked kind are counted among the marked ones. -/
theorem countP_marked {q : Host.Call → Bool} (hq : ∀ c, q c = true → c.isMarked = true)
    (calls : List Host.Call) : (marked calls).countP q = calls.countP q := by
  rw [marked, countP_filter]
  refine countP_congr fun c _ => ?_
  simpa using hq c

theorem mem_marked_iff {c : Host.Call} (hc : c.isMarked = true) {calls : List Host.Call} :
    c ∈ marked calls ↔ c ∈ calls := by
  rw [marked, mem_filter]
  exact and_iff_left hc

namespace Reaps

variable {p : Pid} {tending : List Host.Call}

theorem countP_isSpawn (h : Reaps p tending) : tending.countP isSpawn = 0 := by
  cases h with
  | collects hc => simp [(isSpawn_isKill_of_collected? hc).1]
  | kills => rfl
  | waits => rfl

theorem countP_isKill (h : Reaps p tending) : tending.countP isKill ≤ 1 := by
  cases h with
  | collects hc => simp [(isSpawn_isKill_of_collected? hc).2]
  | kills => exact Nat.le_refl 1
  | waits => exact Nat.le_refl 1

/-- Only the child that is tended is killed. -/
theorem eq_of_kill_mem {q : Pid} (h : Reaps p tending) (hkill : .kill q ∈ tending) : q = p := by
  cases h with
  | collects hc =>
    obtain rfl := mem_singleton.1 hkill
    cases hc
  | kills => simpa using hkill
  | waits => simpa using hkill

/-- Where a status is collected, no kill comes after it. -/
theorem kill_first (h : Reaps p tending) :
    tending.Pairwise fun c d => c.collected? ≠ none → d.isKill = false := by
  cases h with
  | collects => exact pairwise_singleton _ _
  | kills => simp [isKill]
  | waits => simp [isKill, collected?]

/-- **The child is reaped**: its status is collected, or it is killed and then waited for. -/
theorem reaped (h : Reaps p tending) :
    (∃ c, c.collected? = some p ∧ [c] <+ tending) ∨
      ∃ answer, [.kill p, .wait p answer] <+ tending := by
  cases h with
  | @collects c hc => exact .inl ⟨c, hc, Sublist.refl _⟩
  | @kills answer => exact .inr ⟨answer, Sublist.refl _⟩
  | @waits e answer => exact .inr ⟨answer, sublist_cons_self _ _⟩

end Reaps

/-- **A course leaves nothing behind.** -/
theorem Course.tidy {calls : List Host.Call} (h : Course calls) : Tidy calls := by
  cases h with
  | idle => exact ⟨Nat.zero_le 1, Nat.zero_le 1, nofun, .nil, nofun⟩
  | refused =>
    exact ⟨Nat.le_refl 1, Nat.zero_le 1, fun p hp => by simp at hp, pairwise_singleton _ _,
      fun launch p hp => by simp at hp⟩
  | @tended launch p tending htending =>
    refine ⟨?_, ?_, fun q hq => ?_, ?_, fun launch' q hq => ?_⟩
    · have hone : (Host.Call.spawn launch (.ok p) :: tending).countP isSpawn = 1 := by
        rw [countP_cons_of_pos rfl, htending.countP_isSpawn]
      exact Nat.le_of_eq hone
    · rw [countP_cons_of_neg Bool.false_ne_true]
      exact htending.countP_isKill
    · have hkill : .kill q ∈ tending := by simpa using hq
      obtain rfl := htending.eq_of_kill_mem hkill
      exact ⟨launch, (singleton_sublist.2 hkill).cons_cons _⟩
    · exact pairwise_cons.2 ⟨fun _ _ hc => absurd rfl hc, htending.kill_first⟩
    · rcases mem_cons.1 hq with hfirst | hlater
      · obtain ⟨rfl, ⟨⟩⟩ := Host.Call.spawn.inj hfirst
        rcases htending.reaped with ⟨c, hc, hsub⟩ | ⟨answer, hsub⟩
        · exact .inl ⟨c, hc, hsub.cons_cons _⟩
        · exact .inr ⟨answer, hsub.cons_cons _⟩
      · have hspawn := countP_eq_zero.1 htending.countP_isSpawn _ hlater
        exact absurd rfl hspawn

/-- **Only the marked calls matter.** -/
theorem Tidy.of_marked {calls : List Host.Call} (h : Tidy (marked calls)) : Tidy calls := by
  have hsub : marked calls <+ calls := filter_sublist
  refine ⟨?_, ?_, fun p hp => ?_, ?_, fun launch p hp => ?_⟩
  · rw [← countP_marked fun _ => isMarked_of_isSpawn]
    exact h.one_spawn
  · rw [← countP_marked fun _ => isMarked_of_isKill]
    exact h.one_kill
  · obtain ⟨launch, hkill⟩ := h.kill_started p ((mem_marked_iff rfl).2 hp)
    exact ⟨launch, hkill.trans hsub⟩
  · refine (pairwise_filter.1 h.kill_first).imp fun {c d} hcd hc => ?_
    cases hkill : d.isKill with
    | false => rfl
    | true => exact hkill ▸ hcd (isMarked_of_collected? hc) (isMarked_of_isKill hkill) hc
  · rcases h.reaped launch p ((mem_marked_iff rfl).2 hp) with ⟨c, hc, hin⟩ | ⟨answer, hin⟩
    · exact .inl ⟨c, hc, hin.trans hsub⟩
    · exact .inr ⟨answer, hin.trans hsub⟩

end Doctest
