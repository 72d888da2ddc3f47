/-
# Tending a child to its end

However the operating system answers, each function that has to do with a child keeps to its course:

| function | marked calls | the time is up |
| --- | --- | --- |
| `watch` | the look that finds the end, or none | a look finds it running when no time is left |
| `await`, `converse` | the one that collects the status, a failed `wait`, or none | after the limit |
| `guarded` | those, then `kill` and `wait` unless the status was collected | as what it guards |
| `run`, `capture` | a course | after the limit |

The limit is counted from a reading of the clock.  The loop of looks is the only one
(`relates_watch`): as long as a look finds the child running before the deadline, the time of the
look and of the pause after it is taken off what is left.  The guard is the only place where a child
is killed (`Awaits.guarded`), and so a way out that comes to be added to what it guards needs no
more than the table's second line.
-/

import Doctest.Proofs.Interpreter.Course

namespace Doctest

open Host.Call

/-! ## Saying that the time is up -/

/-- A failure that says that the time is up says so of the given limit, and it is up. -/
def Timely (limit? : Option Duration) (calls : List Host.Call) (failure? : Option RunError) :
    Prop :=
  ∀ command limit, failure? = some (.timeout command limit) →
    limit? = some limit ∧ TimesOut limit calls

section Timely

variable {limit? : Option Duration} {calls : List Host.Call} {failure? : Option RunError}

theorem timely_of_ne (h : ∀ command limit, failure? ≠ some (.timeout command limit)) :
    Timely limit? calls failure? := fun command limit hfailure => absurd hfailure (h command limit)

/-- **Calls around it do not matter**, if no look among them finds the end of a child. -/
theorem Timely.surrounded {before after : List Host.Call} (h : Timely limit? calls failure?)
    (hbefore : ∀ c ∈ before, c.collected? = none) (hafter : ∀ c ∈ after, c.collected? = none) :
    Timely limit? (before ++ calls ++ after) failure? := by
  intro command limit hfailure
  obtain ⟨hlimit, ⟨before', start, looks, p, took, rest, hcalls, hup⟩, hunseen⟩ :=
    h command limit hfailure
  refine ⟨hlimit, ⟨before ++ before', start, looks, p, took, rest ++ after, ?_, hup⟩, ?_⟩
  · simp [hcalls]
  · intro q status took hmem
    rcases List.mem_append.1 hmem with hmem | hmem
    · rcases List.mem_append.1 hmem with hmem | hmem
      · cases hbefore _ hmem
      · exact hunseen q status took hmem
    · cases hafter _ hmem

end Timely

/-! ## Children and runs -/

/-- A child that has been started is reaped, and called late only when the time is up. -/
structure Tended (p : Pid) (limit? : Option Duration) (calls : List Host.Call)
    (failure? : Option RunError) : Prop where
  reaps : Reaps p (marked calls)
  timely : Timely limit? calls failure?

/-- What is started keeps to a course, and is called late only when the time is up. -/
structure Runs (limit? : Option Duration) (calls : List Host.Call) (failure? : Option RunError) :
    Prop where
  course : Course (marked calls)
  timely : Timely limit? calls failure?

section Runs

variable {p : Pid} {launch : Launch} {limit? : Option Duration}
  {before calls after : List Host.Call} {failure? : Option RunError}

/-- Calls after it that do not matter to the child change nothing. -/
theorem Tended.followed (h : Tended p limit? calls failure?)
    (hafter : ∀ c ∈ after, c.isMarked = false) : Tended p limit? (calls ++ after) failure? := by
  refine ⟨?_, h.timely.surrounded (List.forall_mem_nil _) fun c hc =>
    collected?_eq_none (hafter c hc)⟩
  rw [marked_append, marked_eq_nil hafter, List.append_nil]
  exact h.reaps

/-- **Calls around it that do not matter to a child** change nothing. -/
theorem Runs.surrounded (h : Runs limit? calls failure?)
    (hbefore : ∀ c ∈ before, c.isMarked = false) (hafter : ∀ c ∈ after, c.isMarked = false) :
    Runs limit? (before ++ calls ++ after) failure? := by
  refine ⟨?_, h.timely.surrounded (fun c hc => collected?_eq_none (hbefore c hc))
    fun c hc => collected?_eq_none (hafter c hc)⟩
  rw [marked_surrounded calls hbefore hafter]
  exact h.course

/-- What is not called late may have come to anything else. -/
theorem Tended.quiet {failure?' : Option RunError} (h : Tended p limit? calls failure?)
    (hquiet : ∀ command limit, failure?' ≠ some (.timeout command limit)) :
    Tended p limit? calls failure?' := ⟨h.reaps, timely_of_ne hquiet⟩

/-- **A child that is started and tended** makes a run. -/
theorem Tended.runs (h : Tended p limit? calls failure?) :
    Runs limit? (.spawn launch (.ok p) :: calls) failure? := by
  refine ⟨?_, ?_⟩
  · rw [marked_cons_of_pos rfl]
    exact .tended h.reaps
  · have hall : Timely limit? ([.spawn launch (.ok p)] ++ calls ++ []) failure? :=
      h.timely.surrounded (List.forall_mem_singleton.2 rfl) (List.forall_mem_nil _)
    rwa [List.append_nil] at hall

theorem runs_refused {e : IoError} : Runs limit? [.spawn launch (.error e)] (some (.io e)) :=
  ⟨.refused, timely_of_ne nofun⟩

/-- What is not started at all keeps to a course. -/
theorem runs_idle (hcalls : ∀ c ∈ calls, c.isMarked = false)
    (hquiet : ∀ command limit, failure? ≠ some (.timeout command limit)) :
    Runs limit? calls failure? := by
  refine ⟨?_, timely_of_ne hquiet⟩
  rw [marked_eq_nil hcalls]
  exact .idle

end Runs

namespace Child

open Traced

variable {σ : Type} {h : Host (StateM σ)} {α : Type}

/-- What a result fails with, if it does. -/
def failure? : Except Halt (Except RunError α) → Option RunError
  | .ok (.error e) => some e
  | _ => none

theorem relates_reap (p : Pid) :
    Relates (fun calls _ => ∃ answer, calls = [.kill p, .wait p answer]) (reap h.recorded p) :=
  relates_event_bind fun _ => relates_event_bind fun answer => relates_pure ⟨answer, rfl⟩

/-! ## Looking at a child -/

/-- The looks at a child with some time left until the deadline, and what they come to: each but the
last finds it running, and so is followed by a pause. -/
inductive Watch (p : Pid) (command : Text) (limit : Duration) (left : Nat) :
    List Host.Call → Except RunError ExitStatus → Prop
  | ended (looks : List Host.Call) {status : ExitStatus} {took : Nat} :
      (∀ c ∈ looks, c.isMarked = false) →
      Watch p command limit left (looks ++ [.poll p ⟨.ok (some status), took⟩]) (.ok status)
  | failed (looks : List Host.Call) {e : IoError} {took : Nat} :
      (∀ c ∈ looks, c.isMarked = false) →
      Watch p command limit left (looks ++ [.poll p ⟨.error e, took⟩]) (.error (.io e))
  | late (looks : List Host.Call) {took : Nat} :
      (∀ c ∈ looks, c.isMarked = false) → left ≤ elapsed looks + took →
      Watch p command limit left (looks ++ [.poll p ⟨.ok none, took⟩])
        (.error (.timeout command limit))

/-- A look that finds the child running, and a pause, before the others. -/
theorem Watch.again {p : Pid} {command : Text} {limit : Duration} {left took late : Nat}
    {calls : List Host.Call} {v : Except RunError ExitStatus}
    (hw : Watch p command limit (left - (took + (pollInterval + late))) calls v) :
    Watch p command limit left (.poll p ⟨.ok none, took⟩ :: .pause late :: calls) v := by
  have hlooks : ∀ {looks : List Host.Call}, (∀ c ∈ looks, c.isMarked = false) →
      ∀ c ∈ .poll p ⟨.ok none, took⟩ :: .pause late :: looks, c.isMarked = false := fun h =>
    List.forall_mem_cons.2 ⟨rfl, List.forall_mem_cons.2 ⟨rfl, h⟩⟩
  cases hw with
  | ended _ h => exact .ended _ (hlooks h)
  | failed _ h => exact .failed _ (hlooks h)
  | late _ h hleft =>
    refine .late _ (hlooks h) ?_
    simp only [elapsed_cons, time]
    omega

/-- **The loop of looks.**  The recursion is on the time left: a pause takes some, however short it
is. -/
theorem relates_watch (p : Pid) (command : Text) (limit : Duration) (deadline now : Nat) :
    Relates (Watch p command limit (deadline - now))
      (watch h.recorded p command limit deadline now) := by
  induction hleft : deadline - now using Nat.strongRecOn generalizing now with
  | ind left ih =>
    rw [watch]
    refine relates_event_bind fun look => ?_
    obtain ⟨status, took⟩ := look
    cases status with
    | error e => exact relates_pure (.failed [] (List.forall_mem_nil _))
    | ok ended =>
      cases ended with
      | some status => exact relates_pure (.ended [] (List.forall_mem_nil _))
      | none =>
        dsimp only
        split
        · refine relates_pure (.late [] (List.forall_mem_nil _) ?_)
          rw [elapsed_nil]
          omega
        · refine relates_event_bind fun late => ?_
          have hnow : deadline - (now + took + pollInterval + late) =
              left - (took + (pollInterval + late)) := by omega
          refine (ih _ ?_ _ hnow).mono fun _ _ hw => hw.again
          simp only [pollInterval]
          omega

/-! ## Waiting for a child -/

/-- The marked calls of whoever waits for a child, and whether its status was collected. -/
inductive Ends (p : Pid) : List Host.Call → Bool → Prop
  | collected {c : Host.Call} : c.collected? = some p → Ends p [c] true
  | refused {e : IoError} : Ends p [.wait p (.error e)] false
  | left : Ends p [] false

/-- The time is up: it has passed since the clock was read before the first look at the child, and
the last look finds the child running.  No look has found its end. -/
structure Late (p : Pid) (limit : Duration) (calls : List Host.Call) : Prop where
  reached : ∃ before start looks took,
    calls = before ++ .now start :: (looks ++ [.poll p ⟨.ok none, took⟩]) ∧
      limit.toNanos ≤ elapsed looks + took
  unseen : ∀ q status took, .poll q ⟨.ok (some status), took⟩ ∉ calls

/-- What waiting for a child comes to, before the guard acts. -/
structure Awaits (p : Pid) (limit? : Option Duration) (calls : List Host.Call)
    (v : Except Halt (Except RunError ExitStatus)) : Prop where
  ends : Ends p (marked calls) (isCollected v)
  late : ∀ command limit, failure? v = some (.timeout command limit) →
    limit? = some limit ∧ Late p limit calls

section Awaits

variable {p : Pid} {limit? : Option Duration} {calls : List Host.Call}
  {v : Except Halt (Except RunError ExitStatus)}

theorem awaits_of_ne (hends : Ends p (marked calls) (isCollected v))
    (h : ∀ command limit, failure? v ≠ some (.timeout command limit)) : Awaits p limit? calls v :=
  ⟨hends, fun command limit hfailure => absurd hfailure (h command limit)⟩

/-- Calls before it that do not matter to the child change nothing. -/
theorem Awaits.preceded (ha : Awaits p limit? calls v) {before : List Host.Call}
    (hbefore : ∀ c ∈ before, c.isMarked = false) : Awaits p limit? (before ++ calls) v := by
  refine ⟨?_, fun command limit hfailure => ?_⟩
  · rw [marked_append, marked_eq_nil hbefore, List.nil_append]
    exact ha.ends
  · obtain ⟨hlimit, ⟨before', start, looks, took, hcalls, hup⟩, hunseen⟩ :=
      ha.late command limit hfailure
    refine ⟨hlimit, ⟨before ++ before', start, looks, took, by simp [hcalls], hup⟩, ?_⟩
    intro q status took' hmem
    rcases List.mem_append.1 hmem with hmem | hmem
    · cases hbefore _ hmem
    · exact hunseen q status took' hmem

/-- **However the looks end**, the status was collected or the child is left to the guard. -/
theorem Watch.awaits {command : Text} {limit : Duration} {w : Except RunError ExitStatus}
    (hw : Watch p command limit limit.toNanos calls w) (start : Nat) :
    Awaits p (some limit) (.now start :: calls) (.ok w) := by
  have hnow : ∀ cs, marked (.now start :: cs) = marked cs := fun _ => rfl
  cases hw with
  | ended _ h =>
    refine awaits_of_ne ?_ nofun
    rw [hnow, marked_append, marked_eq_nil h]
    exact .collected rfl
  | failed _ h =>
    refine awaits_of_ne ?_ nofun
    rw [hnow, marked_append, marked_eq_nil h]
    exact .left
  | @late looks took h hleft =>
    refine ⟨?_, fun command' limit' hfailure => ?_⟩
    · rw [hnow, marked_append, marked_eq_nil h]
      exact .left
    · obtain ⟨rfl, rfl⟩ := RunError.timeout.inj (Option.some.inj hfailure)
      refine ⟨rfl, ⟨[], start, looks, took, rfl, hleft⟩, ?_⟩
      intro q status took' hmem
      rcases List.mem_append.1 ((List.mem_cons.1 hmem).resolve_left nofun) with hmem | hmem
      · cases h _ hmem
      · simp at hmem

/-- What is left to the guard is killed and waited for. -/
theorem Awaits.reaped {answer : Except IoError ExitStatus} (ha : Awaits p limit? calls v)
    (hv : isCollected v = false) :
    Tended p limit? (calls ++ [.kill p, .wait p answer]) (failure? v) := by
  refine ⟨?_, fun command limit hfailure => ?_⟩
  · have hends := ha.ends
    rw [hv] at hends
    rw [marked_append]
    cases hmarked : marked calls with
    | nil => exact .kills
    | cons c cs =>
      rw [hmarked] at hends
      cases hends
      exact .waits
  · obtain ⟨hlimit, ⟨before, start, looks, took, rfl, hup⟩, hunseen⟩ :=
      ha.late command limit hfailure
    refine ⟨hlimit, ⟨before, start, looks, p, took, [.wait p answer], by simp, hup⟩, ?_⟩
    intro q status took' hmem
    rcases List.mem_append.1 hmem with hmem | hmem
    · exact hunseen q status took' hmem
    · simp at hmem

/-- A child whose status was collected is reaped. -/
theorem Awaits.collected (ha : Awaits p limit? calls v) (hv : isCollected v = true) :
    Tended p limit? calls (failure? v) := by
  have hends := ha.ends
  rw [hv] at hends
  refine ⟨?_, timely_of_ne ?_⟩
  · cases hmarked : marked calls with
    | nil =>
      rw [hmarked] at hends
      cases hends
    | cons c cs =>
      rw [hmarked] at hends
      cases hends with
      | collected hc => exact .collects hc
  · unfold isCollected at hv
    split at hv
    · exact nofun
    · cases hv

end Awaits

/-- **The guard reaps the child**, whatever becomes of what it guards. -/
theorem relates_guarded {p : Pid} {limit? : Option Duration}
    {act : ExceptT Halt (Traced Host.Call σ) (Except RunError ExitStatus)}
    (hact : Relates (Awaits p limit?) act.run) :
    Relates (fun calls v => Tended p limit? calls (failure? v)) (guarded h.recorded p act).run := by
  refine hact.bind fun calls v ha => ?_
  split
  · rename_i hv
    refine relates_pure ?_
    rw [List.append_nil]
    exact ha.collected hv
  · rename_i hv
    refine (relates_reap p).bind fun _ _ hreap => relates_pure ?_
    obtain ⟨answer, rfl⟩ := hreap
    rw [List.append_nil]
    exact ha.reaped (Bool.not_eq_true _ ▸ hv)

/-- **Whoever waits for a child collects its status or leaves it to the guard**, with a limit or
without one. -/
theorem relates_await (p : Pid) (command : Text) (limit? : Option Duration) :
    Relates (Awaits p limit?) (await h.recorded p command limit?).run := by
  unfold await
  cases limit? with
  | none =>
    refine relates_event_lift_bind fun answer => ?_
    cases answer with
    | ok status => exact relates_pure (awaits_of_ne (.collected rfl) nofun)
    | error e => exact relates_pure (awaits_of_ne .refused nofun)
  | some limit =>
    refine relates_event_lift_bind fun start => ?_
    cases hdeadline : deadline? start limit with
    | none => exact relates_pure (awaits_of_ne .left nofun)
    | some deadline =>
      have hleft : deadline - start = limit.toNanos := by
        unfold deadline? at hdeadline
        dsimp only at hdeadline
        split at hdeadline
        · obtain rfl := Option.some.inj hdeadline
          omega
        · cases hdeadline
      refine (relates_watch p command limit deadline start).lift fun calls v hw => ?_
      rw [hleft] at hw
      exact hw.awaits start

/-- Giving a child its input does not end it. -/
theorem relates_feed (p : Pid) (input? : Option Text) :
    Relates (fun calls _ => ∀ c ∈ calls, c.isMarked = false) (feed h.recorded p input?) := by
  unfold feed
  cases input? with
  | none => exact relates_pure (List.forall_mem_nil _)
  | some input =>
    refine relates_event_bind fun answer => ?_
    split
    · exact relates_pure (List.forall_mem_singleton.2 rfl)
    · exact relates_pure (List.forall_mem_singleton.2 rfl)

theorem relates_converse (p : Pid) (command : Text) (input? : Option Text)
    (limit? : Option Duration) :
    Relates (Awaits p limit?) (converse h.recorded p command input? limit?).run := by
  refine (relates_feed p input?).lift_bind fun feeding fed hfeeding => ?_
  cases fed with
  | error e =>
    refine relates_pure (awaits_of_ne ?_ nofun)
    rw [List.append_nil, marked_eq_nil hfeeding]
    exact .left
  | ok _ => exact (relates_await p command limit?).mono fun _ _ ha => ha.preceded hfeeding

/-! ## Whole runs -/

/-- **A run in the foreground keeps to its course.** -/
theorem relates_run (executable : Path) (arguments : List Bytes) (limit? : Option Duration) :
    Relates (fun calls v => Runs limit? calls (failure? v))
      (run h.recorded executable arguments limit?).run := by
  refine relates_event_lift_bind fun answer => ?_
  cases answer with
  | error e => exact relates_pure runs_refused
  | ok p =>
    refine (relates_guarded (relates_await p _ limit?)).bind_run (fun calls result ha => ?_)
      fun calls e ha => ha.runs
    cases result with
    | error e =>
      refine relates_pure ?_
      rw [List.append_nil]
      exact ha.runs
    | ok status =>
      dsimp only
      split
      · refine relates_pure ?_
        rw [List.append_nil]
        exact ha.runs
      · refine relates_pure ?_
        rw [List.append_nil]
        exact Tended.runs (ha.quiet nofun)

/-- **A run for its output keeps to its course.** -/
theorem relates_capture (executable : Path) (arguments : List Bytes) (input? : Option Text)
    (limit? : Option Duration) :
    Relates (fun calls v => Runs limit? calls (failure? v))
      (capture h.recorded executable arguments input? limit?).run := by
  refine relates_event_lift_bind fun answer => ?_
  cases answer with
  | error e => exact relates_pure runs_refused
  | ok p =>
    refine (relates_guarded (relates_converse p _ input? limit?)).bind_run
      (fun calls result ha => ?_) fun calls e ha => ha.runs
    cases result with
    | error e =>
      refine relates_pure ?_
      rw [List.append_nil]
      exact ha.runs
    | ok status =>
      refine relates_event_lift_bind fun c => relates_pure ?_
      have hquiet : Tended p limit? calls (failure? (.ok (output c))) :=
        ha.quiet (by cases c <;> exact nofun)
      exact (hquiet.followed (List.forall_mem_singleton.2 rfl)).runs

end Child
end Doctest
