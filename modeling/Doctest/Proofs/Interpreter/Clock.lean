/-
# A host with a clock

On a host with a clock the time that passes is the time that calls say they took, and a child that
is not killed ends at a time of its own:

| call | says |
| --- | --- |
| `now` | the time |
| `poll` | the child's status, if it ended before the look, which is made while the call lasts |
| `wait` | the child's status |
| `collect` | what the child printed |

So the looks at a child come to its status, or the last of them began before its end and lasted
until the deadline (`Host.Clock.run_watch`).  If the child ends before the deadline that look was
*overtaken*: the child ended while it lasted, and the guard kills it all the same
(`Host.Clock.run_guarded_await_some`).
-/

import Doctest.Proofs.Interpreter.Deadline

namespace Doctest

open Host.Call

/-- A host on which time passes as its calls say.  A child that is spared, which is started and not
killed, comes to an end of its own. -/
structure Host.Clock {σ : Type} (h : Host (StateM σ)) where
  time : σ → Nat
  Spared : Pid → σ → Prop
  ends : Pid → Nat
  status : Pid → ExitStatus
  printed : Pid → Collected
  now : ∀ s, (h.now.run s).1 = time (h.now.run s).2
  pause : ∀ s, time (h.pause.run s).2 = time s + pollInterval + (h.pause.run s).1
  poll : ∀ p s, time ((h.poll p).run s).2 = time s + ((h.poll p).run s).1.took
  look : ∀ p s, Spared p s → ∃ seen, time s ≤ seen ∧ seen ≤ time ((h.poll p).run s).2 ∧
    ((h.poll p).run s).1.status = .ok (if ends p ≤ seen then some (status p) else none)
  wait : ∀ p s, Spared p s → ((h.wait p).run s).1 = .ok (status p)
  collect : ∀ p s, Spared p s → ((h.collect p).run s).1 = printed p
  spared_spawn : ∀ launch p s, ((h.spawn launch).run s).1 = .ok p →
    Spared p ((h.spawn launch).run s).2
  spared_feed : ∀ p input s, Spared p s → Spared p ((h.feed p input).run s).2
  spared_now : ∀ p s, Spared p s → Spared p (h.now.run s).2
  spared_pause : ∀ p s, Spared p s → Spared p (h.pause.run s).2
  spared_poll : ∀ p s, Spared p s → Spared p ((h.poll p).run s).2
  spared_wait : ∀ p s, Spared p s → Spared p ((h.wait p).run s).2

namespace Child

variable {σ : Type} {h : Host (StateM σ)} {p : Pid} {s : σ}
  {act : ExceptT Halt (Traced Host.Call σ) (Except RunError ExitStatus)}

/-- A status that was collected is not touched by the guard. -/
theorem run_guarded_of_collected {status : ExitStatus}
    (hvalue : (act.run.run s).value = .ok (.ok status)) :
    (guarded h.recorded p act).run.run s = act.run.run s := by
  have hcollected : isCollected (.ok (.ok status)) = true := rfl
  show Traced.run (act.run >>= _) s = _
  rw [Traced.run_bind, hvalue, if_pos hcollected, Traced.run_pure, List.append_nil, ← hvalue]

/-- Without a status the guard kills the child and waits for it. -/
theorem run_guarded_of_left (hvalue : isCollected (act.run.run s).value = false) :
    ∃ answer after, (guarded h.recorded p act).run.run s =
      ⟨(act.run.run s).value, (act.run.run s).events ++ [.kill p, .wait p answer], after⟩ := by
  show ∃ answer after, Traced.run (act.run >>= _) s = _
  rw [Traced.run_bind, hvalue, if_neg Bool.false_ne_true]
  exact ⟨_, _, rfl⟩

end Child

namespace Host.Clock

open Child

variable {σ : Type} {h : Host (StateM σ)} (k : h.Clock) {p : Pid} {s : σ} {limit : Duration}
  {calls : List Host.Call}

/-- The clock can hold the deadline, and every child that is looked at ends before it. -/
def EndsInTime (limit : Duration) (calls : List Host.Call) : Prop :=
  ∀ start ∈ readings calls, ∃ deadline, deadline? start limit = some deadline ∧
    ∀ p seen, .poll p seen ∈ calls → k.ends p < deadline

theorem EndsInTime.mono {k : h.Clock} {all : List Host.Call} (hends : k.EndsInTime limit all)
    (hcalls : calls ⊆ all) : k.EndsInTime limit calls := by
  intro start hstart
  obtain ⟨deadline, hdeadline, hend⟩ :=
    hends start (mem_readings_iff.2 (hcalls (mem_readings_iff.1 hstart)))
  exact ⟨deadline, hdeadline, fun p seen hpoll => hend p seen (hcalls hpoll)⟩

theorem EndsInTime.of_bind {α β : Type} {k : h.Clock} {z : Traced Host.Call σ α}
    {rest : α → Traced Host.Call σ β} (hends : k.EndsInTime limit ((z >>= rest).run s).events) :
    k.EndsInTime limit (z.run s).events :=
  hends.mono (List.subset_append_left _ _)

/-- The last look at a child is overtaken by its end: the look began before the child ended, and
when the look was over the deadline had come, which is later than that end. -/
def Overtaken (limit : Duration) (calls : List Host.Call) : Prop :=
  ∃ before start looks p took rest,
    calls = before ++ .now start :: (looks ++ .poll p ⟨.ok none, took⟩ :: .kill p :: rest) ∧
      start + elapsed looks < k.ends p ∧ k.ends p < start + limit.toNanos ∧
      limit.toNanos ≤ elapsed looks + took

/-- A look that takes no time is not overtaken. -/
theorem not_overtaken (h : ∀ p seen, .poll p seen ∈ calls → seen.took = 0) :
    ¬ k.Overtaken limit calls := by
  rintro ⟨before, start, looks, p, took, rest, rfl, hbegin, hend, hup⟩
  have htook : took = 0 := h p ⟨.ok none, took⟩ (by simp)
  omega

theorem Overtaken.surrounded {k : h.Clock} (before after : List Host.Call)
    (ho : k.Overtaken limit calls) : k.Overtaken limit (before ++ calls ++ after) := by
  obtain ⟨before', start, looks, p, took, rest, rfl, htimes⟩ := ho
  exact ⟨before ++ before', start, looks, p, took, rest ++ after, by simp, htimes⟩

/-- Looking from a time on has come to the child's status, or was given up when the last look began
before the child ended and lasted until the deadline. -/
def Watched (p : Pid) (now deadline : Nat)
    (o : Traced.Outcome Host.Call σ (Except RunError ExitStatus)) : Prop :=
  (o.value = .ok (k.status p) ∧ k.Spared p o.after) ∨
    ∃ e looks took, o.value = .error e ∧ o.events = looks ++ [.poll p ⟨.ok none, took⟩] ∧
      now + elapsed looks < k.ends p ∧ deadline ≤ now + elapsed looks + took

/-- **The loop of looks.**  The recursion is on the time left; at each look the clock shows the time
that the loop has counted, and the child is still spared. -/
theorem run_watch (command : Text) (limit : Duration) (deadline : Nat) (hs : k.Spared p s) :
    k.Watched p (k.time s) deadline
      ((watch h.recorded p command limit deadline (k.time s)).run s) := by
  induction hleft : deadline - k.time s using Nat.strongRecOn generalizing s with
  | ind left ih =>
    obtain ⟨seen, hbegin, -, hlook⟩ := k.look p s hs
    have htime := k.poll p s
    have hspared := k.spared_poll p s hs
    obtain ⟨⟨answer, took⟩, s', hpoll⟩ : ∃ look s', (h.poll p).run s = (look, s') := ⟨_, _, rfl⟩
    have hrun : (h.recorded.poll p).run s = ⟨⟨answer, took⟩, [.poll p ⟨answer, took⟩], s'⟩ :=
      Traced.run_event hpoll
    rw [hpoll] at hlook htime hspared
    dsimp only at hlook htime hspared
    rw [watch, Traced.run_bind, hrun]
    dsimp only
    split at hlook
    · obtain rfl := hlook
      exact .inl ⟨rfl, hspared⟩
    · obtain rfl := hlook
      dsimp only
      split
      · refine .inr ⟨_, [], took, rfl, rfl, ?_, ?_⟩
        · rw [elapsed_nil]
          omega
        · rw [elapsed_nil]
          omega
      · have hlater := k.pause s'
        have hspared' := k.spared_pause p s' hspared
        obtain ⟨late, s'', hpause⟩ : ∃ late s'', h.pause.run s' = (late, s'') := ⟨_, _, rfl⟩
        have hrun' : h.recorded.pause.run s' = ⟨late, [.pause late], s''⟩ := Traced.run_event hpause
        rw [hpause] at hlater hspared'
        dsimp only at hlater hspared'
        have hnow : k.time s + took + pollInterval + late = k.time s'' := by omega
        rw [Traced.run_bind, hrun', hnow]
        dsimp only
        have hless : deadline - k.time s'' < left := by
          simp only [pollInterval] at hnow
          omega
        rcases ih _ hless hspared' rfl with
          hends | ⟨e, looks, took', hvalue, hevents, hstill, hup⟩
        · exact .inl hends
        · refine .inr
            ⟨e, .poll p ⟨.ok none, took⟩ :: .pause late :: looks, took', hvalue, ?_, ?_, ?_⟩
          · rw [hevents]
            rfl
          · simp only [elapsed_cons, Host.Call.time]
            omega
          · simp only [elapsed_cons, Host.Call.time]
            omega

/-- **Waiting without a limit comes to the child's status.** -/
theorem run_await_none (command : Text) (hs : k.Spared p s) :
    let o := (await h.recorded p command none).run.run s
    o.value = .ok (.ok (k.status p)) ∧ k.Spared p o.after := by
  obtain ⟨answer, s', hrun⟩ : ∃ answer s', (h.wait p).run s = (answer, s') := ⟨_, _, rfl⟩
  have hwait := k.wait p s hs
  have hspared := k.spared_wait p s hs
  rw [hrun] at hwait hspared
  obtain rfl : answer = .ok (k.status p) := hwait
  have hawait : (await h.recorded p command none).run.run s =
      ⟨.ok (.ok (k.status p)), [.wait p (.ok (k.status p))], s'⟩ := by
    unfold await
    exact Traced.run_event_lift_bind hrun
  rw [hawait]
  exact ⟨rfl, hspared⟩

theorem run_await_of_deadline {start deadline : Nat} {s' : σ} (command : Text)
    (hstart : h.now.run s = (start, s')) (hdeadline : deadline? start limit = some deadline) :
    (await h.recorded p command (some limit)).run.run s =
      let o := (watch h.recorded p command limit deadline start).run s'
      ⟨.ok o.value, .now start :: o.events, o.after⟩ := by
  unfold await
  refine (Traced.run_event_lift_bind hstart).trans ?_
  rw [hdeadline]
  simp only [Traced.run_lift]

/-- Waiting has come to the child's status, or was given up after a look that began before the child
ended and lasted until the deadline. -/
def Awaited (p : Pid) (limit : Duration)
    (o : Traced.Outcome Host.Call σ (Except Halt (Except RunError ExitStatus))) : Prop :=
  (o.value = .ok (.ok (k.status p)) ∧ k.Spared p o.after) ∨
    ∃ e start looks took, o.value = .ok (.error e) ∧
      o.events = .now start :: (looks ++ [.poll p ⟨.ok none, took⟩]) ∧
      start + elapsed looks < k.ends p ∧ k.ends p < start + limit.toNanos ∧
      limit.toNanos ≤ elapsed looks + took

theorem Watched.awaited {k : h.Clock} {start : Nat}
    {w : Traced.Outcome Host.Call σ (Except RunError ExitStatus)}
    (hw : k.Watched p start (start + limit.toNanos) w) (hend : k.ends p < start + limit.toNanos) :
    k.Awaited p limit ⟨.ok w.value, .now start :: w.events, w.after⟩ := by
  rcases hw with ⟨hvalue, hafter⟩ | ⟨e, looks, took, hvalue, hevents, hstill, hup⟩
  · exact .inl ⟨congrArg Except.ok hvalue, hafter⟩
  · refine .inr ⟨e, start, looks, took, congrArg Except.ok hvalue, ?_, hstill, hend, by omega⟩
    exact congrArg (Host.Call.now start :: ·) hevents

/-- Waiting with a limit reads the clock. -/
theorem mem_readings_await {start : Nat} {s' : σ} (command : Text)
    (hstart : h.now.run s = (start, s')) :
    start ∈ readings ((await h.recorded p command (some limit)).run.run s).events := by
  obtain ⟨v, rest, after, hawait⟩ : ∃ v rest after,
      (await h.recorded p command (some limit)).run.run s = ⟨v, .now start :: rest, after⟩ := by
    unfold await
    exact ⟨_, _, _, Traced.run_event_lift_bind hstart⟩
  rw [hawait]
  exact List.mem_cons_self

/-- Whoever looks at a child looks at it once at least. -/
theorem mem_poll_watch (command : Text) (limit : Duration) (deadline now : Nat) :
    ∃ seen, .poll p seen ∈ ((watch h.recorded p command limit deadline now).run s).events := by
  rw [watch, Traced.run_bind]
  exact ⟨_, List.mem_append_left _ (List.mem_singleton_self _)⟩

/-- Waiting with a limit comes to the child's status or is given up, if the child ends in time. -/
theorem run_await_some (command : Text) (limit : Duration) (hs : k.Spared p s)
    (hends : k.EndsInTime limit ((await h.recorded p command (some limit)).run.run s).events) :
    k.Awaited p limit ((await h.recorded p command (some limit)).run.run s) := by
  obtain ⟨start, s', hstart⟩ : ∃ start s', h.now.run s = (start, s') := ⟨_, _, rfl⟩
  obtain ⟨deadline, hdeadline, hend⟩ := hends start (mem_readings_await command hstart)
  have hnow := k.now s
  have hspared := k.spared_now p s hs
  rw [hstart] at hnow hspared
  dsimp only at hnow hspared
  obtain ⟨seen, hpoll⟩ := mem_poll_watch (h := h) (p := p) (s := s') command limit deadline start
  have hwatch := k.run_watch command limit deadline hspared
  rw [run_await_of_deadline command hstart hdeadline] at hend ⊢
  obtain ⟨rfl, -⟩ := deadline?_eq_some_iff.1 hdeadline
  rw [← hnow] at hwatch
  exact hwatch.awaited (hend p seen (List.mem_cons_of_mem _ hpoll))

/-! ## Under the guard -/

/-- Waiting has come to the child's status, or the last look was overtaken. -/
def Reached (p : Pid) (limit : Duration)
    (o : Traced.Outcome Host.Call σ (Except Halt (Except RunError ExitStatus))) : Prop :=
  (o.value = .ok (.ok (k.status p)) ∧ k.Spared p o.after) ∨ k.Overtaken limit o.events

/-- **A look that was given up is overtaken**: the guard kills the child. -/
theorem Awaited.reached {k : h.Clock}
    {act : ExceptT Halt (Traced Host.Call σ) (Except RunError ExitStatus)}
    (hact : k.Awaited p limit (act.run.run s)) :
    k.Reached p limit ((guarded h.recorded p act).run.run s) := by
  rcases hact with ⟨hvalue, hspared⟩ | ⟨e, start, looks, took, hvalue, hevents, htimes⟩
  · rw [run_guarded_of_collected hvalue]
    exact .inl ⟨hvalue, hspared⟩
  · obtain ⟨answer, after, hrun⟩ := run_guarded_of_left (h := h) (p := p)
      (congrArg isCollected hvalue)
    rw [hrun]
    refine .inr ⟨[], start, looks, p, took, [.wait p answer], ?_, htimes⟩
    rw [hevents]
    simp

theorem run_guarded_await_none (command : Text) (hs : k.Spared p s) :
    let o := (guarded h.recorded p (await h.recorded p command none)).run.run s
    o.value = .ok (.ok (k.status p)) ∧ k.Spared p o.after := by
  obtain ⟨hvalue, hspared⟩ := k.run_await_none command hs
  rw [run_guarded_of_collected hvalue]
  exact ⟨hvalue, hspared⟩

/-- **Waiting with a limit comes to the child's status**, or the last look is overtaken, if the
child ends in time. -/
theorem run_guarded_await_some (command : Text) (limit : Duration) (hs : k.Spared p s)
    (hends : k.EndsInTime limit
      ((guarded h.recorded p (await h.recorded p command (some limit))).run.run s).events) :
    k.Reached p limit
      ((guarded h.recorded p (await h.recorded p command (some limit))).run.run s) :=
  (k.run_await_some command limit hs hends.of_bind).reached

end Host.Clock
end Doctest
