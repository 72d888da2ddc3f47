/-
# The time limit of the command line

| source | |
| --- | --- |
| `--timeout` | first |
| settings | second |
| none | no limit |

The first source that is there gives the limit of every run, a whole number of seconds
(`Program.run_interpreter_recorded`).

| with the limit | the run |
| --- | --- |
| the clock can hold no deadline | ends suddenly |
| the child ends before the deadline | comes to what it comes to without the limit |

The last line has one exception: the deadline comes while the child is looked at for the last time,
and the child ended after that look had begun.
-/

import Doctest.Proofs.Interpreter.Limit

namespace Doctest

open Host.Call

variable {σ : Type} {h : Host (StateM σ)}

namespace Interpreter

variable {i : Interpreter (Traced Host.Call σ)}

/-- A configured executable leaves an interpreter that can be reached. -/
theorem Reachable.withExecutable (hi : i.Reachable h) (path : Path) (s : σ) :
    Reachable h ((i.withExecutable h.recorded path).run s).value :=
  .used (a := .done) (s := s) (.withExecutable path) hi <| by
    simp [Use.outcome, Use.perform, Session.call, Except.map]

theorem Reachable.withTimeout (hi : i.Reachable h) (limit? : Option Duration) (s : σ) :
    Reachable h (i.withTimeout limit?) :=
  .used (a := .done) (s := s) (.withTimeout limit?) hi rfl

end Interpreter

namespace Program

open Interpreter

/-- The limit in whole seconds, of the first source that has one. -/
def limitSecs? (o : Options) (c : Config) : Option Nat := o.timeoutSecs <|> c.timeoutSecs

/-- **The interpreter of the command line has the limit of the first source.** -/
theorem run_interpreter_recorded (h : Host (StateM σ)) (o : Options) (c : Config) (s : σ) :
    let i := ((interpreter h.recorded o c).run s).value
    i.Reachable h ∧ i.timeout = (limitSecs? o c).map Duration.ofSecs := by
  have hlimit : (o.timeoutSecs.map Duration.ofSecs <|> c.timeout) =
      (limitSecs? o c).map Duration.ofSecs := by
    unfold limitSecs? Config.timeout
    cases o.timeoutSecs <;> rfl
  have hdefault : Reachable h ((ruby h.recorded).run s).value := .built (.ruby s)
  rw [interpreter, Traced.run_bind, hlimit]
  generalize (ruby h.recorded).run s = default at hdefault
  cases o.ruby <|> c.interpreterPath with
  | some path => exact ⟨(hdefault.withExecutable path default.after).withTimeout _ s, rfl⟩
  | none => exact ⟨hdefault.withTimeout _ s, rfl⟩

/-- **The limit decides how a run ends.**  The interpreter of the command line has the limit of
`--timeout`, or else that of the settings, and keeps it in all its runs.  Whatever number of seconds
that is and whatever the clock shows, a run ends suddenly exactly if the seconds of the clock and
those of the limit are too many for the clock.  On a host with a clock a run whose child ends before
the deadline comes to what it comes to without a limit; the one exception is a child that ended
while it was looked at, if that look lasted until the deadline. -/
theorem limit_decides (h : Host (StateM σ)) (o : Options) (c : Config) (s₀ : σ) :
    Reachable h ((interpreter h.recorded o c).run s₀).value ∧
    ((interpreter h.recorded o c).run s₀).value.timeout = (limitSecs? o c).map Duration.ofSecs ∧
    ∀ i, Reachable h i → i.timeout = (limitSecs? o c).map Duration.ofSecs →
      ∀ (r : Interpreter.Run) (s : σ),
      let out := r.outcome h i s
      let free := r.outcome h (i.withTimeout none) s
      (∀ a i', out.value = .ok (a, i') → i'.Reachable h ∧ i'.timeout = i.timeout) ∧
      (∀ halt, out.value.map Prod.fst = .error halt ↔ halt = .deadlineOverflow ∧
        ∃ n ∈ limitSecs? o c, ∃ start ∈ readings out.events, 2 ^ 63 ≤ start / 1000000000 + n) ∧
      ∀ (k : h.Clock) (n : Nat), limitSecs? o c = some n → k.EndsInTime (.ofSecs n) out.events →
        out.value.map Prod.fst = free.value.map Prod.fst ∨ k.Overtaken (.ofSecs n) out.events := by
  obtain ⟨hreachable, htimeout⟩ := run_interpreter_recorded h o c s₀
  refine ⟨hreachable, htimeout, fun i hi hlimit r s => ?_⟩
  have hhands : Session.HandsOn h (r.perform h) i s := r.handsOn hi.looks s
  refine ⟨fun a i' hvalue => ⟨.ran r hi hvalue, hhands.keeps i.timeout a i' hvalue⟩, fun halt => ?_,
    fun k n hn hends => ?_⟩
  · have hstops := hhands.passes.stops i.timeout halt
    rw [Traced.run_map] at hstops
    rw [← Child.overflows_ofSecs_iff, ← hlimit]
    exact hstops
  · have hfree := hhands.passes.eq_unlimited k (.ofSecs n)
    rw [Traced.run_map, Traced.run_map] at hfree
    have hown : i.withTimeout (some (.ofSecs n)) = i := by
      rw [hn, Option.map_some] at hlimit
      rw [← hlimit]
      rfl
    rw [hown] at hfree
    exact hfree hends

/-- A host whose state is the time.  Every child ends after 25 ms and prints `ok`, and a look at it
takes no time. -/
def timedHost : Host (StateM Nat) where
  byEnding := false
  workingDirectory := pure (.ok (.ofText "/w".toList))
  environment? _ := pure (some (Text.encode "/a".toList))
  isFile path := pure (path ≠ Config.defaultFile)
  readText _ := pure (.error .notFound)
  createScratch := pure (.ok (.ofText "/tmp/x.rb".toList))
  writeScratch _ _ := pure (.ok ())
  removeScratch _ := pure ()
  spawn _ := pure (.ok 7)
  feed _ _ := pure (.ok ())
  wait _ := do
    modify (max 25000000)
    return .ok (.exited 0)
  poll _ := do
    return ⟨.ok (if 25000000 ≤ (← get) then some (.exited 0) else none), 0⟩
  kill _ := pure ()
  collect _ := pure (.bytes (Text.encode "ok".toList))
  now := get
  pause := do
    modify (· + pollInterval)
    return 0
  print _ _ := pure ()
  trace _ := pure ⟨5, "wait".toList, ["wait".toList, "main".toList]⟩

/-- Its clock. -/
def timedClock : timedHost.Clock where
  time t := t
  Spared _ _ := True
  ends _ := 25000000
  status _ := .exited 0
  printed _ := .bytes (Text.encode "ok".toList)
  now _ := rfl
  pause t := (Nat.add_zero (t + pollInterval)).symm
  poll _ t := (Nat.add_zero t).symm
  look _ t _ := ⟨t, Nat.le_refl t, Nat.le_refl t, rfl⟩
  wait _ _ _ := rfl
  collect _ _ _ := rfl
  spared_spawn _ _ _ _ := trivial
  spared_feed _ _ _ _ := trivial
  spared_now _ _ _ := trivial
  spared_pause _ _ _ := trivial
  spared_poll _ _ _ := trivial
  spared_wait _ _ _ := trivial

/-- With five seconds on the command line and a longer time in the settings, a child that takes
25 ms comes to what it comes to without a limit, unless the clock is about to end. -/
theorem limit_decides_timed :
    let o : Options := ⟨false, none, none, some 5, none⟩
    let c : Config := ⟨none, .spec, none, some 9223372036854775807, []⟩
    let i := ((interpreter timedHost.recorded o c).run 0).value
    let r : Interpreter.Run := .piped "p 1\n".toList
    limitSecs? o c = some 5 ∧ i.Reachable timedHost ∧ i.timeout = some (.ofSecs 5) ∧
      timedClock.EndsInTime (.ofSecs 5) (r.outcome timedHost i 0).events ∧
      (r.outcome timedHost i 0).value.map Prod.fst =
        (r.outcome timedHost (i.withTimeout none) 0).value.map Prod.fst ∧
      (r.outcome timedHost i 9223372036854775803000000000).value.map Prod.fst =
        .error .deadlineOverflow := by
  intro o c i r
  obtain ⟨hi, hlimit, hruns⟩ := limit_decides timedHost o c 0
  obtain ⟨-, -, hends⟩ := hruns i hi hlimit r 0
  obtain ⟨-, hstops, -⟩ := hruns i hi hlimit r 9223372036854775803000000000
  have hreadings : readings (r.outcome timedHost i 0).events = [0] := by decide +kernel
  have hlate : readings (r.outcome timedHost i 9223372036854775803000000000).events =
      [9223372036854775803000000000] := by decide +kernel
  have hinTime : timedClock.EndsInTime (.ofSecs 5) (r.outcome timedHost i 0).events := by
    intro start hstart
    rw [hreadings] at hstart
    obtain rfl := List.mem_singleton.1 hstart
    exact ⟨5000000000, by decide, fun _ _ _ => (by decide : 25000000 < 5000000000)⟩
  have hquick : (r.outcome timedHost i 0).events.all
      (fun call => match call with | .poll _ seen => seen.took == 0 | _ => true) = true := by
    decide +kernel
  have hnot : ¬ timedClock.Overtaken (.ofSecs 5) (r.outcome timedHost i 0).events :=
    timedClock.not_overtaken fun p seen hpoll => by
      simpa using List.all_eq_true.1 hquick _ hpoll
  refine ⟨rfl, hi, hlimit, hinTime, (hends timedClock 5 rfl hinTime).resolve_right hnot, ?_⟩
  refine (hstops _).2 ⟨rfl, 5, rfl, 9223372036854775803000000000, ?_, by decide⟩
  rw [hlate]
  exact List.mem_singleton_self _

/-- The longest time that the command line takes leaves no deadline: the program cannot go on with a
child that ends at once, and can without the option. -/
theorem limit_overflows :
    let words := ["--timeout", "18446744073709551615", "exec", "a.rb"]
    let limited := words.map fun word => Text.encode word.toList
    Invocation.ofArguments limited =
      .run ⟨false, none, none, some 18446744073709551615, none⟩ (.exec [.ofText "a.rb".toList]) ∧
    ((run timedHost limited).run 0).1 = haltCode ∧
    ((run timedHost (limited.drop 2)).run 0).1 = 0 := by
  decide +kernel

end Program
end Doctest
