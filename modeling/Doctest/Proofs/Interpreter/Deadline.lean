/-
# The deadline of a run

The deadline is the time at which the clock is read plus the limit, if the clock can hold that
instant.  A run ends suddenly if it cannot, and for no other reason:

| limit | clock | `deadline?` | end of the run |
| --- | --- | --- | --- |
| none | not read | | never sudden |
| `n` seconds | read in second `t` | `t + n < 2 ^ 63`: the sum | never sudden |
| `n` seconds | read in second `t` | `2 ^ 63 ≤ t + n`: `none` | sudden |

The clock is read by `await`, once, and by nothing else on the way (`clockless_watch`), so that the
one reading among the calls of a run decides (`relates_stops_await`).  The guard around it reads no
clock and changes no end (`relates_stops_guarded`).
-/

import Doctest.Proofs.Interpreter.Tending
import Mathlib.Algebra.Group.Nat.Defs

namespace Doctest

theorem Duration.toNanos_ofSecs (n : Nat) : (Duration.ofSecs n).toNanos = n * 1000000000 :=
  Nat.add_zero _

/-! ## Readings of the clock -/

namespace Host.Call

/-- What the call reads from the clock. -/
def reading? : Host.Call → Option Nat
  | .now t => some t
  | _ => none

/-- What some calls read from the clock. -/
def readings (calls : List Host.Call) : List Nat := calls.filterMap reading?

theorem mem_readings_iff {calls : List Host.Call} {t : Nat} :
    t ∈ readings calls ↔ .now t ∈ calls := by
  rw [readings, List.mem_filterMap]
  constructor
  · rintro ⟨c, hc, hreading⟩
    cases c with
    | now t' =>
      obtain rfl := Option.some.inj hreading
      exact hc
    | _ => cases hreading
  · exact fun hc => ⟨_, hc, rfl⟩

theorem readings_append (cs ds : List Host.Call) :
    readings (cs ++ ds) = readings cs ++ readings ds :=
  List.filterMap_append

theorem readings_eq_nil {calls : List Host.Call} (h : ∀ c ∈ calls, c.reading? = none) :
    readings calls = [] := List.filterMap_eq_nil_iff.2 h

/-- Looking at what is there reads no clock. -/
theorem reading?_of_isLookup {c : Host.Call} (h : c.isLookup = true) : c.reading? = none := by
  cases c <;> first | rfl | cases h

end Host.Call

open Host.Call

namespace Child

open Traced

variable {σ : Type} {h : Host (StateM σ)} {α : Type} {start d : Nat} {limit : Duration}
  {limit? : Option Duration} {calls : List Host.Call}

/-! ## Deadlines -/

theorem deadline?_eq_some_iff :
    deadline? start limit = some d ↔ start + limit.toNanos = d ∧ d ≤ lastInstant := by
  unfold deadline?
  dsimp only
  split
  · rw [Option.some.injEq]
    constructor
    · rintro rfl
      exact ⟨rfl, ‹_›⟩
    · exact And.left
  · refine iff_of_false nofun ?_
    rintro ⟨rfl, hd⟩
    exact ‹¬ _› hd

/-- **Which whole numbers of seconds have no deadline.** -/
theorem deadline?_ofSecs_eq_none_iff {n : Nat} :
    deadline? start (.ofSecs n) = none ↔ 2 ^ 63 ≤ start / 1000000000 + n := by
  rw [deadline?, Duration.toNanos_ofSecs]
  split
  · refine iff_of_false nofun ?_
    simp only [lastInstant] at *
    omega
  · refine iff_of_true rfl ?_
    simp only [lastInstant] at *
    omega

/-- No reading of the clock leaves a deadline. -/
def Overflows (limit? : Option Duration) (readings : List Nat) : Prop :=
  ∃ limit ∈ limit?, ∃ start ∈ readings, deadline? start limit = none

theorem not_overflows_nil : ¬ Overflows limit? [] := by
  rintro ⟨-, -, start, hstart, -⟩
  cases hstart

/-- **A whole number of seconds overflows** if it and the seconds of a reading are too many. -/
theorem overflows_ofSecs_iff {n? : Option Nat} {readings : List Nat} :
    Overflows (n?.map Duration.ofSecs) readings ↔
      ∃ n ∈ n?, ∃ start ∈ readings, 2 ^ 63 ≤ start / 1000000000 + n := by
  constructor
  · rintro ⟨limit, hlimit, start, hstart, hnone⟩
    obtain ⟨n, hn, rfl⟩ := Option.map_eq_some_iff.1 hlimit
    exact ⟨n, hn, start, hstart, deadline?_ofSecs_eq_none_iff.1 hnone⟩
  · rintro ⟨n, hn, start, hstart, hover⟩
    exact ⟨_, Option.mem_map_of_mem _ hn, start, hstart, deadline?_ofSecs_eq_none_iff.2 hover⟩

/-! ## Sudden ends -/

/-- A run ends suddenly exactly if a reading of the clock leaves no deadline. -/
def Stops (limit? : Option Duration) (calls : List Host.Call) (v : Except Halt α) : Prop :=
  ∀ halt, v = .error halt ↔ halt = .deadlineOverflow ∧ Overflows limit? (readings calls)

/-- What reads no clock and comes to a value. -/
theorem stops_ok (hcalls : readings calls = []) (a : α) : Stops limit? calls (.ok a) := fun _ =>
  iff_of_false nofun fun ⟨_, hover⟩ => not_overflows_nil (hcalls ▸ hover)

/-- Calls before it that read no clock change nothing. -/
theorem Stops.preceded {v : Except Halt α} (hv : Stops limit? calls v) {before : List Host.Call}
    (hbefore : readings before = []) : Stops limit? (before ++ calls) v := fun halt => by
  rw [readings_append, hbefore]
  exact hv halt

/-- Calls after it that read no clock change nothing. -/
theorem Stops.followed {v : Except Halt α} (hv : Stops limit? calls v) {after : List Host.Call}
    (hafter : readings after = []) : Stops limit? (calls ++ after) v := fun halt => by
  rw [readings_append, hafter, List.append_nil]
  exact hv halt

/-! ## Reading the clock once -/

/-- The action reads no clock. -/
abbrev Clockless (x : Traced Host.Call σ α) : Prop := Keeps (reading? · = none) (fun _ => True) x

theorem clockless_reap (p : Pid) : Clockless (reap h.recorded p) :=
  (keeps_event fun _ => by rfl).bind fun _ _ => (keeps_event fun _ => by rfl).bind fun _ _ =>
    keeps_pure trivial

/-- **The looks at a child read no clock**: how long they and the pauses took says what time it
is. -/
theorem clockless_watch (p : Pid) (command : Text) (limit : Duration) (deadline now : Nat) :
    Clockless (watch h.recorded p command limit deadline now) := by
  induction hleft : deadline - now using Nat.strongRecOn generalizing now with
  | ind left ih =>
    rw [watch]
    refine (keeps_event fun _ => by rfl).bind fun look _ => ?_
    obtain ⟨status, took⟩ := look
    cases status with
    | error e => exact keeps_pure trivial
    | ok ended =>
      cases ended with
      | some status => exact keeps_pure trivial
      | none =>
        dsimp only
        split
        · exact keeps_pure trivial
        · refine (keeps_event fun _ => by rfl).bind fun late _ => ih _ ?_ _ rfl
          simp only [pollInterval]
          omega

theorem clockless_feed (p : Pid) (input? : Option Text) : Clockless (feed h.recorded p input?) := by
  unfold feed
  cases input? with
  | none => exact keeps_pure trivial
  | some input =>
    refine (keeps_event fun _ => by rfl).bind fun answer _ => ?_
    split
    · exact keeps_pure trivial
    · exact keeps_pure trivial

/-- What an action that reads no clock comes to, as calls and a value. -/
theorem Clockless.relates {x : Traced Host.Call σ α} (hx : Clockless x) :
    Relates (fun calls _ => readings calls = []) x := fun s => readings_eq_nil (hx s).1

/-- **Waiting for a child ends suddenly exactly if there is no deadline.** -/
theorem relates_stops_await (p : Pid) (command : Text) (limit? : Option Duration) :
    Relates (Stops limit?) (await h.recorded p command limit?).run := by
  unfold await
  cases limit? with
  | none =>
    refine relates_event_lift_bind fun answer => ?_
    cases answer with
    | ok status => exact relates_pure (stops_ok rfl _)
    | error e => exact relates_pure (stops_ok rfl _)
  | some limit =>
    refine relates_event_lift_bind fun start => ?_
    have hreading : ∀ {calls : List Host.Call}, readings calls = [] →
        readings (.now start :: calls) = [start] := fun hcalls => congrArg (start :: ·) hcalls
    cases hdeadline : deadline? start limit with
    | none =>
      refine relates_pure fun halt => ?_
      rw [hreading rfl]
      constructor
      · rintro ⟨⟩
        exact ⟨rfl, limit, rfl, start, List.mem_singleton_self _, hdeadline⟩
      · rintro ⟨rfl, -⟩
        rfl
    | some deadline =>
      have hwatch := clockless_watch (h := h) p command limit deadline start
      refine hwatch.relates.lift fun calls _ hcalls halt => iff_of_false nofun ?_
      rintro ⟨-, limit', hlimit, start', hstart, hnone⟩
      rw [hreading hcalls] at hstart
      obtain rfl := Option.some.inj hlimit
      obtain rfl := List.mem_singleton.1 hstart
      rw [hdeadline] at hnone
      cases hnone

/-- **The guard changes no end.** -/
theorem relates_stops_guarded {p : Pid} {limit? : Option Duration}
    {act : ExceptT Halt (Traced Host.Call σ) (Except RunError ExitStatus)}
    (hact : Relates (Stops limit?) act.run) :
    Relates (Stops limit?) (guarded h.recorded p act).run := by
  refine hact.bind fun calls v hv => ?_
  split
  · refine relates_pure ?_
    rwa [List.append_nil]
  · refine (clockless_reap p).relates.bind fun reaping _ hreaping => relates_pure ?_
    rw [List.append_nil]
    exact hv.followed hreaping

end Child
end Doctest
