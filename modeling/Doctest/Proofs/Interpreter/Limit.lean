/-
# The limit of a run

Whatever is run, the limit is handed on to `await` and used for nothing else:

| run | before the wait | after it |
| --- | --- | --- |
| nothing to run, or not started | | |
| `run` | lookups, `spawn` | |
| `capture` | lookups, scratch file, `spawn`, `feed` | `collect`, scratch file |

So there is one form of a run for all limits (`Session.HandsOn`), and what holds of `await` under
its guard holds of it: it ends suddenly exactly if there is no deadline (`Child.Passes.stops`), and
with a child that ends before the deadline it comes to what it comes to without a limit
(`Child.Passes.eq_unlimited`).
-/

import Doctest.Proofs.Interpreter.Clock
import Doctest.Proofs.Interpreter.Reaped

namespace Doctest

open Host.Call Traced

variable {σ : Type} {h : Host (StateM σ)} {α β : Type} {s : σ}

/-- A child is still spared when it has been fed. -/
theorem Host.Clock.spared_run_feed (k : h.Clock) {p : Pid} (hs : k.Spared p s)
    (input? : Option Text) : k.Spared p ((Child.feed h.recorded p input?).run s).after := by
  unfold Child.feed
  cases input? with
  | none => exact hs
  | some input =>
    have hspared := k.spared_feed p input s hs
    obtain ⟨answer, s', hfeed⟩ : ∃ answer s', (h.feed p input).run s = (answer, s') := ⟨_, _, rfl⟩
    rw [hfeed] at hspared
    have hrun : (h.recorded.feed p input).run s = ⟨answer, [.feed p input answer], s'⟩ :=
      Traced.run_event hfeed
    dsimp only
    rw [Traced.run_bind, hrun]
    dsimp only
    split
    · exact hspared
    · exact hspared

namespace Child

/-- What is left to do when a child has been waited for.  It reads no clock, a sudden end stays one,
and anything else comes to a value that the end and the output of the child decide. -/
structure Finishes (h : Host (StateM σ)) (p : Pid)
    (finish : Except Halt (Except RunError ExitStatus) → Traced Host.Call σ (Except Halt α)) :
    Prop where
  clockless : ∀ v, Clockless (finish v)
  halted : ∀ halt s, ((finish (.error halt)).run s).value = .error halt
  ended : ∀ r, ∃ result : Collected → α, ∀ s,
    ((finish (.ok r)).run s).value = .ok (result ((h.collect p).run s).1)

namespace Finishes

variable {p : Pid} {z z' : Traced Host.Call σ (Except Halt (Except RunError ExitStatus))}
  {finish : Except Halt (Except RunError ExitStatus) → Traced Host.Call σ (Except Halt α)}
  {limit? : Option Duration} {limit : Duration}

/-- What ends suddenly exactly if there is no deadline still does. -/
theorem stops (hfinish : Finishes h p finish) (hz : Stops limit? (z.run s).events (z.run s).value) :
    Stops limit? ((z >>= finish).run s).events ((z >>= finish).run s).value := by
  have hrest : readings ((finish (z.run s).value).run (z.run s).after).events = [] :=
    readings_eq_nil (hfinish.clockless _ _).1
  intro halt
  rw [Traced.run_bind, readings_append, hrest, List.append_nil, ← hz halt]
  dsimp only
  cases (z.run s).value with
  | error e => rw [hfinish.halted, Except.error.injEq, Except.error.injEq]
  | ok r =>
    obtain ⟨result, hresult⟩ := hfinish.ended r
    rw [hresult]
    exact iff_of_false nofun nofun

/-- **What comes of the child's status is the same**, whatever was done to have it. -/
theorem eq_of_reached (hfinish : Finishes h p finish) (k : h.Clock)
    (hz : k.Reached p limit (z.run s))
    (hz' : (z'.run s).value = .ok (.ok (k.status p)) ∧ k.Spared p (z'.run s).after) :
    ((z >>= finish).run s).value = ((z' >>= finish).run s).value ∨
      k.Overtaken limit ((z >>= finish).run s).events := by
  rw [Traced.run_bind, Traced.run_bind]
  dsimp only
  obtain ⟨hvalue', hspared'⟩ := hz'
  rcases hz with ⟨hvalue, hspared⟩ | hovertaken
  · left
    obtain ⟨result, hresult⟩ := hfinish.ended (.ok (k.status p))
    rw [hvalue, hvalue', hresult, hresult, k.collect p _ hspared, k.collect p _ hspared']
  · right
    exact hovertaken.surrounded [] _

end Finishes

/-- From a state on, the action hands its limit on to one guarded wait for a spared child, after
calls that read no clock, or does the same with any limit. -/
inductive Passes (h : Host (StateM σ)) :
    (Option Duration → Traced Host.Call σ (Except Halt α)) → σ → Prop
  | settled {x s} (a : α) (calls : List Host.Call) (s' : σ) : readings calls = [] →
      (∀ limit?, (x limit?).run s = ⟨.ok a, calls, s'⟩) → Passes h x s
  | waits {x s} (p : Pid) (command : Text)
      (finish : Except Halt (Except RunError ExitStatus) → Traced Host.Call σ (Except Halt α)) :
      (∀ k : h.Clock, k.Spared p s) → Finishes h p finish →
      (∀ limit?, x limit? =
        (guarded h.recorded p (await h.recorded p command limit?)).run >>= finish) → Passes h x s
  | preceded {x y s s'} (calls : List Host.Call) : Passes h x s' → readings calls = [] →
      (∀ limit?, (y limit?).run s =
        let o := (x limit?).run s'
        ⟨o.value, calls ++ o.events, o.after⟩) → Passes h y s

namespace Passes

variable {x : Option Duration → Traced Host.Call σ (Except Halt α)}
  {y : Option Duration → Traced Host.Call σ (Except Halt β)}

/-! ## What holds of every run -/

/-- **A run ends suddenly exactly if there is no deadline.** -/
theorem stops (hx : Passes h x s) (limit? : Option Duration) :
    Stops limit? ((x limit?).run s).events ((x limit?).run s).value := by
  induction hx with
  | settled a calls s' hcalls hrun =>
    rw [hrun]
    exact stops_ok hcalls _
  | @waits x s p command finish _ hfinish hrun =>
    rw [hrun]
    exact hfinish.stops (relates_stops_guarded (relates_stops_await p command limit?) s)
  | preceded calls _ hcalls hrun ih =>
    rw [hrun]
    exact ih.preceded hcalls

/-- **With a child that ends in time a run comes to what it comes to without a limit**, or the last
look at the child is overtaken. -/
theorem eq_unlimited (hx : Passes h x s) (k : h.Clock) (limit : Duration)
    (hends : k.EndsInTime limit ((x (some limit)).run s).events) :
    ((x (some limit)).run s).value = ((x none).run s).value ∨
      k.Overtaken limit ((x (some limit)).run s).events := by
  induction hx with
  | settled a calls s' _ hrun =>
    left
    rw [hrun, hrun]
  | @waits x s p command finish hspared hfinish hrun =>
    rw [hrun] at hends
    rw [hrun, hrun]
    exact hfinish.eq_of_reached k (k.run_guarded_await_some command limit (hspared k) hends.of_bind)
      (k.run_guarded_await_none command (hspared k))
  | @preceded x y s s' calls _ _ hrun ih =>
    rw [hrun] at hends
    have hown := ih (hends.mono (List.subset_append_right _ _))
    rw [hrun, hrun]
    dsimp only
    rcases hown with hvalue | hovertaken
    · exact .inl hvalue
    · right
      rw [← List.append_nil (calls ++ _)]
      exact hovertaken.surrounded calls []

/-! ## Runs in other runs -/

theorem congr {y : Option Duration → Traced Host.Call σ (Except Halt α)} (hx : Passes h x s)
    (hy : ∀ limit?, (y limit?).run s = (x limit?).run s) : Passes h y s :=
  .preceded [] hx rfl hy

/-- What comes after it reads no clock and makes something of what it came to. -/
theorem followed (hx : Passes h x s) (f : α → β)
    {rest : Except Halt α → Traced Host.Call σ (Except Halt β)} (hrest : ∀ v, Clockless (rest v))
    (hvalue : ∀ v s, ((rest v).run s).value = v.map f) :
    Passes h (fun limit? => x limit? >>= rest) s := by
  induction hx with
  | settled a calls s' hcalls hrun =>
    refine .settled (f a) (calls ++ ((rest (.ok a)).run s').events) ((rest (.ok a)).run s').after ?_
      fun limit? => ?_
    · rw [readings_append, hcalls, readings_eq_nil (hrest _ _).1]
      rfl
    · rw [Traced.run_bind, hrun]
      dsimp only
      rw [hvalue]
      rfl
  | waits p command finish hspared hfinish hrun =>
    have hfinished : Finishes h p fun v => finish v >>= rest := by
      refine ⟨fun v => ?_, fun halt s => ?_, fun r => ?_⟩
      · exact (hfinish.clockless v).bind fun v _ => hrest v
      · rw [Traced.run_bind, hvalue, hfinish.halted]
        rfl
      · obtain ⟨result, hresult⟩ := hfinish.ended r
        refine ⟨f ∘ result, fun s => ?_⟩
        rw [Traced.run_bind, hvalue, hresult]
        rfl
    refine .waits p command _ hspared hfinished fun limit? => ?_
    rw [hrun, bind_assoc]
  | preceded calls _ hcalls hrun ih =>
    refine .preceded calls ih hcalls fun limit? => ?_
    rw [Traced.run_bind, hrun, Traced.run_bind]
    simp only [List.append_assoc]

/-- An action that reads no clock, and cannot end everything, comes first. -/
theorem lift_bind {first : Traced Host.Call σ β}
    {next : Option Duration → β → ExceptT Halt (Traced Host.Call σ) α} (hfirst : Clockless first)
    (hnext : Passes h (fun limit? => (next limit? (first.run s).value).run) (first.run s).after) :
    Passes h (fun limit? => (liftM first >>= next limit?).run) s :=
  .preceded _ hnext (readings_eq_nil (hfirst s).1) fun _ => Traced.run_lift_bind rfl

/-- What reads no clock, and cannot end everything, may as well come before the guard. -/
theorem guarded_lift_bind {p : Pid} {first : Traced Host.Call σ β}
    {next : Option Duration → β → ExceptT Halt (Traced Host.Call σ) (Except RunError ExitStatus)}
    {f : Except RunError ExitStatus → ExceptT Halt (Traced Host.Call σ) α}
    (hfirst : Clockless first)
    (hnext : Passes h
      (fun limit? => (guarded h.recorded p (next limit? (first.run s).value) >>= f).run)
      (first.run s).after) :
    Passes h (fun limit? => (guarded h.recorded p (liftM first >>= next limit?) >>= f).run) s := by
  have hguard : ∀ limit?, (guarded h.recorded p (liftM first >>= next limit?) >>= f).run =
      first >>= fun b => (guarded h.recorded p (next limit? b) >>= f).run := fun limit? => by
    have hlift : (liftM first : ExceptT Halt _ β).run = first >>= fun b => pure (.ok b) := rfl
    simp only [guarded, ExceptT.run_bind, ExceptT.run_mk, hlift, bind_assoc, pure_bind]
  exact .preceded _ hnext (readings_eq_nil (hfirst s).1) fun limit? => by
    rw [hguard, Traced.run_bind]

/-- A guarded wait for a spared child comes first, and then what reads no clock and comes to a value
that the end and the output of the child decide. -/
theorem guarded_await_bind {p : Pid} (command : Text)
    {f : Except RunError ExitStatus → ExceptT Halt (Traced Host.Call σ) α}
    (hspared : ∀ k : h.Clock, k.Spared p s) (hclockless : ∀ r, Clockless (f r).run)
    (hended : ∀ r, ∃ result : Collected → α, ∀ s,
      ((f r).run.run s).value = .ok (result ((h.collect p).run s).1)) :
    Passes h
      (fun limit? => (guarded h.recorded p (await h.recorded p command limit?) >>= f).run) s := by
  have hfinish : Finishes h p fun v => match v with
      | .ok r => (f r).run
      | .error halt => pure (.error halt) := by
    refine ⟨fun v => ?_, fun _ _ => rfl, hended⟩
    cases v with
    | ok r => exact hclockless r
    | error halt => exact keeps_pure trivial
  refine .waits p command _ hspared hfinish fun limit? => ?_
  rw [ExceptT.run_bind]
  refine bind_congr fun v => ?_
  cases v <;> rfl

end Passes

/-! ## The two ways of starting a child -/

/-- **A run in the foreground hands its limit on.** -/
theorem passes_run (executable : Path) (arguments : List Bytes) (s : σ) :
    Passes h (fun limit? => (run h.recorded executable arguments limit?).run) s := by
  refine Passes.lift_bind (keeps_event fun _ => rfl) ?_
  let launch : Launch := ⟨executable, arguments, .inherited, false⟩
  cases hanswer : ((h.recorded.spawn launch).run s).value with
  | error e => exact .settled (.error (.io e)) [] _ rfl fun _ => rfl
  | ok p =>
    refine Passes.guarded_await_bind _ (fun k => k.spared_spawn launch p s hanswer)
      (fun r => ?_) fun r => ?_
    · cases r with
      | error e => exact keeps_pure trivial
      | ok status =>
        dsimp only
        split
        · exact keeps_pure trivial
        · exact keeps_pure trivial
    · cases r with
      | error e => exact ⟨fun _ => .error e, fun _ => rfl⟩
      | ok status =>
        dsimp only
        split
        · exact ⟨fun _ => .ok (), fun _ => rfl⟩
        · exact ⟨fun _ => .error _, fun _ => rfl⟩

/-- Taking the output of a child reads no clock. -/
theorem clockless_collect (p : Pid) : Clockless (liftM (h.recorded.collect p) >>= fun c =>
    pure (output c) : ExceptT Halt (Traced Host.Call σ) (Except RunError Text)).run := by
  have hcollect : KeepsOk (reading? · = none) (fun _ => True)
      (liftM (h.recorded.collect p) >>= fun c => pure (output c) : ExceptT Halt _ _) :=
    (Keeps.lift (keeps_event fun _ => by rfl)).bind fun _ _ => keepsOk_pure trivial
  exact hcollect.mono fun _ _ => trivial

/-- **A run for its output hands its limit on.** -/
theorem passes_capture (executable : Path) (arguments : List Bytes) (input? : Option Text) (s : σ) :
    Passes h (fun limit? => (capture h.recorded executable arguments input? limit?).run) s := by
  refine Passes.lift_bind (keeps_event fun _ => rfl) ?_
  generalize (⟨executable, arguments, if input?.isSome then InputSource.piped else .none, true⟩ :
    Launch) = launch
  cases hanswer : ((h.recorded.spawn launch).run s).value with
  | error e => exact .settled (.error (.io e)) [] _ rfl fun _ => rfl
  | ok p =>
    refine Passes.guarded_lift_bind (clockless_feed p input?) ?_
    have hspared : ∀ k : h.Clock, k.Spared p
        ((feed h.recorded p input?).run ((h.recorded.spawn launch).run s).after).after :=
      fun k => k.spared_run_feed (k.spared_spawn launch p s hanswer) input?
    generalize (feed h.recorded p input?).run ((h.recorded.spawn launch).run s).after = fed
      at hspared ⊢
    obtain ⟨fed, feeding, s'⟩ := fed
    cases fed with
    | error e =>
      have hleft : isCollected (Traced.run
          (pure (.error (.io e)) : ExceptT Halt (Traced Host.Call σ) _).run s').value = false := rfl
      obtain ⟨answer, after, hrun⟩ := run_guarded_of_left (h := h) (p := p) hleft
      refine .settled (.error (.io e)) [.kill p, .wait p answer] after rfl fun limit? => ?_
      dsimp only
      rw [ExceptT.run_bind, Traced.run_bind, hrun]
      rfl
    | ok _ =>
      refine Passes.guarded_await_bind _ hspared (fun r => ?_) fun r => ?_
      · cases r with
        | error e => exact keeps_pure trivial
        | ok status => exact clockless_collect p
      · cases r with
        | error e => exact ⟨fun _ => .error e, fun _ => rfl⟩
        | ok status =>
          refine ⟨output, fun s => ?_⟩
          have hcollect : (h.recorded.collect p).run s = ⟨_, _, _⟩ := Traced.run_event rfl
          dsimp only
          rw [Traced.run_lift_bind hcollect]
          rfl

end Child

/-! ## What uses an interpreter -/

namespace Session

open Child

/-- From the state on, the action hands the limit of the interpreter on to one wait for a child, or
does the same with any limit, and leaves the limit as it is. -/
structure HandsOn (h : Host (StateM σ)) (act : Session (Traced Host.Call σ) α)
    (i : Interpreter (Traced Host.Call σ)) (s : σ) : Prop where
  passes : Passes h
    (fun limit? => Except.map Prod.fst <$> (StateT.run act (i.withTimeout limit?)).run) s
  keeps : ∀ limit? a i',
    (Traced.run (StateT.run act (i.withTimeout limit?)).run s).value = .ok (a, i') →
    i'.timeout = limit?

variable {i : Interpreter (Traced Host.Call σ)}

theorem handsOn_pure (a : α) : HandsOn h (pure a) i s where
  passes := .settled a [] s rfl fun _ => rfl
  keeps limit? a i' hvalue := by
    obtain ⟨-, rfl⟩ := Prod.mk.inj (Except.ok.inj hvalue)
    rfl

/-- A call of the host that reads no clock comes first. -/
theorem handsOn_call_bind {call : Traced Host.Call σ α} {next : α → Session (Traced Host.Call σ) β}
    (hcall : readings (call.run s).events = [])
    (hnext : HandsOn h (next (call.run s).value) i (call.run s).after) :
    HandsOn h (Session.call call >>= next) i s where
  passes := .preceded _ hnext.passes hcall fun limit? => by
    rw [Traced.run_map, Interpreter.run_call_bind, Traced.run_map]
  keeps limit? a i' hvalue := by
    rw [Interpreter.run_call_bind] at hvalue
    exact hnext.keeps limit? a i' hvalue

/-- **What needs the executable hands its limit on** to what is done with it. -/
theorem handsOn_launch
    {act : Path → Option Duration → ExceptT Halt (Traced Host.Call σ) (Except RunError α)}
    (hact : ∀ p s, Passes h (fun limit? => (act p limit?).run) s)
    (hi : Interpreter.Looks i.executable.supplier) (s : σ) :
    HandsOn h (Session.launch act) i s := by
  have hlooks := (Interpreter.looks_fetch hi s).1
  have hrun := fun limit? => Interpreter.run_launch act (i.withTimeout limit?) s
  have hsame : ∀ limit?, (i.withTimeout limit?).executable = i.executable := fun _ => rfl
  simp only [hsame] at hrun
  generalize i.executable.fetch.run s = fetched at hlooks hrun
  obtain ⟨found, lookups, after⟩ := fetched
  have hlookups : readings lookups = [] :=
    readings_eq_nil fun c hc => reading?_of_isLookup (hlooks c hc)
  cases found with
  | none =>
    refine ⟨.settled (.error (.interpreterNotFound i.program i.origin)) lookups after hlookups
      fun limit? => ?_, fun limit? a i' hvalue => ?_⟩
    · rw [Traced.run_map, hrun]
      rfl
    · rw [hrun] at hvalue
      obtain ⟨-, rfl⟩ := Prod.mk.inj (Except.ok.inj hvalue)
      rfl
  | some p =>
    have hforget : ∀ (v : Except Halt (Except RunError α)) (j : Interpreter (Traced Host.Call σ)),
        (v.map (·, j)).map Prod.fst = v := fun v j => by cases v <;> rfl
    refine ⟨.preceded lookups (hact p after) hlookups fun limit? => ?_,
      fun limit? a i' hvalue => ?_⟩
    · rw [Traced.run_map, hrun]
      dsimp only
      rw [hforget]
      rfl
    · rw [hrun] at hvalue
      dsimp only at hvalue
      generalize (Traced.run (act p (i.withTimeout limit?).timeout).run after).value = v at hvalue
      cases v with
      | error halt => cases hvalue
      | ok r =>
        obtain ⟨-, rfl⟩ := Prod.mk.inj (Except.ok.inj hvalue)
        rfl

theorem HandsOn.map {act : Session (Traced Host.Call σ) α} (ho : HandsOn h act i s) (f : α → β) :
    HandsOn h (f <$> act) i s where
  passes := by
    have hpure : ∀ v : Except Halt α, Clockless (pure (v.map f) : Traced Host.Call σ _) := fun _ =>
      keeps_pure trivial
    refine (ho.passes.followed f hpure fun _ _ => rfl).congr fun limit? => ?_
    rw [bind_pure_comp, StateT.run_map, ExceptT.run_map, Functor.map_map, Functor.map_map]
    congr 2
    funext v
    cases v <;> rfl
  keeps limit? a i' hvalue := by
    rw [StateT.run_map, ExceptT.run_map, Traced.run_map] at hvalue
    dsimp only at hvalue
    generalize hv : (Traced.run (StateT.run act (i.withTimeout limit?)).run s).value = v at hvalue
    cases v with
    | error halt => cases hvalue
    | ok x =>
      obtain ⟨-, rfl⟩ := Prod.mk.inj (Except.ok.inj hvalue)
      exact ho.keeps limit? x.1 x.2 hv

theorem HandsOn.ensuring {act : Session (Traced Host.Call σ) α} (ho : HandsOn h act i s)
    {after : Traced Host.Call σ Unit} (hafter : Clockless after) :
    HandsOn h (Session.ensuring act after) i s where
  passes := by
    have hrest : ∀ v : Except Halt α, Clockless (after >>= fun _ => pure v) := fun _ =>
      hafter.bind fun _ _ => keeps_pure trivial
    refine (ho.passes.followed id hrest fun v _ => by cases v <;> rfl).congr fun limit? => ?_
    rw [Traced.run_map, Interpreter.run_ensuring, Traced.run_bind, Traced.run_map]
    simp
  keeps limit? a i' hvalue := by
    rw [Interpreter.run_ensuring] at hvalue
    exact ho.keeps limit? a i' hvalue

/-! ## Every run -/

/-- **A file is run with the limit.** -/
theorem handsOn_runFile (hi : Interpreter.Looks i.executable.supplier) (path : Path) (s : σ) :
    HandsOn h (runFile h.recorded path) i s := by
  rw [runFile_eq_launch]
  refine handsOn_call_bind rfl ?_
  split
  · exact handsOn_launch (fun p s => passes_capture p [path] none s) hi _
  · exact handsOn_pure _

/-- **A script is run with the limit.** -/
theorem handsOn_runScript (hi : Interpreter.Looks i.executable.supplier) (script : Text) (s : σ) :
    HandsOn h (runScript h.recorded script) i s := by
  unfold runScript
  refine handsOn_call_bind rfl ?_
  split
  · exact handsOn_pure _
  · refine handsOn_call_bind rfl ?_
    split
    · exact handsOn_call_bind rfl (handsOn_pure _)
    · exact (handsOn_runFile hi _ _).ensuring (keeps_event fun _ => rfl)

end Session

/-- **However a program is run**, the limit is handed on to one wait for a child. -/
theorem Interpreter.Run.handsOn {i : Interpreter (Traced Host.Call σ)}
    (hi : Interpreter.Looks i.executable.supplier) (r : Interpreter.Run) (s : σ) :
    Session.HandsOn h (r.perform h) i s := by
  cases r with
  | foreground arguments =>
    refine Session.HandsOn.map ?_ Answer.ended
    rw [Session.run_eq_launch]
    exact Session.handsOn_launch (fun p s => Child.passes_run p arguments s) hi s
  | piped code =>
    refine Session.HandsOn.map ?_ Answer.output
    rw [Session.runCode_eq_launch]
    exact Session.handsOn_launch (fun p s => Child.passes_capture p [] (some code) s) hi s
  | file path => exact (Session.handsOn_runFile hi path s).map Answer.output
  | script lib code =>
    rw [Interpreter.Run.perform, Interpreter.capture_eq_map]
    exact ((Session.handsOn_runScript hi (Script.wrap code lib.display) s).map _).map Answer.output

end Doctest
