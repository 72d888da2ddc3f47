/-
# Calls written down

A host that acts on a state of its own answers as that state says, and each call may change it.  The
state and what the calls make of it are arbitrary, so such a host stands for every behaviour of an
operating system: files come and go, variables change, children end or hang, also in the middle of a
run.

To say what a run asks for and in which order, the same host is made to write its calls down
(`Host.recorded`).  An action then comes to an *outcome*: its value, the events on the way and the
state after it.  Actions one after the other have the events of the first and then those of the
second, which is all that is known of recording (`Traced.run_bind`).
-/

import Doctest.Host.Basic

namespace Doctest

namespace Traced

/-- What an action comes to: its value, the events on the way in their order, and the state after
it. -/
structure Outcome (ε σ α : Type) where
  value : α
  events : List ε
  after : σ

end Traced

/-- An action on a state that writes events down. -/
def Traced (ε σ α : Type) : Type := σ → Traced.Outcome ε σ α

namespace Traced

variable {ε σ α β : Type}

/-- What the action comes to from a state on. -/
def run (x : Traced ε σ α) (s : σ) : Outcome ε σ α := x s

instance : Monad (Traced ε σ) where
  pure a := fun s => ⟨a, [], s⟩
  bind x f := fun s =>
    ⟨(run (f (run x s).value) (run x s).after).value,
      (run x s).events ++ (run (f (run x s).value) (run x s).after).events,
      (run (f (run x s).value) (run x s).after).after⟩

@[simp] theorem run_pure (a : α) (s : σ) : (pure a : Traced ε σ α).run s = ⟨a, [], s⟩ := rfl

/-- **Events come in the order of the actions.** -/
@[simp] theorem run_bind (x : Traced ε σ α) (f : α → Traced ε σ β) (s : σ) :
    (x >>= f).run s =
      ⟨((f (x.run s).value).run (x.run s).after).value,
        (x.run s).events ++ ((f (x.run s).value).run (x.run s).after).events,
        ((f (x.run s).value).run (x.run s).after).after⟩ := rfl

theorem ext_run {x y : Traced ε σ α} (h : ∀ s, x.run s = y.run s) : x = y := funext h

instance : LawfulMonad (Traced ε σ) := by
  refine LawfulMonad.mk' _ (fun x => ext_run fun s => ?_) (fun _ _ => rfl)
    (fun x f g => ext_run fun s => ?_)
  · show Outcome.mk (x.run s).value ((x.run s).events ++ []) (x.run s).after = x.run s
    rw [List.append_nil]
  · simp only [run_bind, List.append_assoc]

@[simp] theorem run_map (f : α → β) (x : Traced ε σ α) (s : σ) :
    (f <$> x).run s = ⟨f (x.run s).value, (x.run s).events, (x.run s).after⟩ := by
  rw [← bind_pure_comp, run_bind, run_pure, List.append_nil]

/-- An action that cannot end everything comes to its value. -/
@[simp] theorem run_lift {δ : Type} (x : Traced ε σ α) (s : σ) :
    Traced.run (liftM x : ExceptT δ (Traced ε σ) α).run s =
      ⟨.ok (x.run s).value, (x.run s).events, (x.run s).after⟩ := by
  show (x >>= fun a => pure (Except.ok a)).run s = _
  rw [run_bind, run_pure, List.append_nil]

/-- An action on the state that is one event, with its answer. -/
def event (act : StateM σ α) (note : α → ε) : Traced ε σ α := fun s =>
  ⟨(act.run s).1, [note (act.run s).1], (act.run s).2⟩

theorem run_event {act : StateM σ α} {note : α → ε} {a : α} {s s' : σ} (h : act.run s = (a, s')) :
    (event act note).run s = ⟨a, [note a], s'⟩ := by
  simp only [event, run, h]

/-- An action that cannot end everything comes first. -/
theorem run_lift_bind {δ : Type} {x : Traced ε σ α} {a : α} {es : List ε} {s s' : σ}
    {f : α → ExceptT δ (Traced ε σ) β} (h : x.run s = ⟨a, es, s'⟩) :
    Traced.run ((liftM x : ExceptT δ (Traced ε σ) α) >>= f).run s =
      let o := Traced.run (f a).run s'
      ⟨o.value, es ++ o.events, o.after⟩ := by
  simp only [ExceptT.run_bind, run_bind, run_lift, h]

theorem run_event_lift_bind {δ : Type} {act : StateM σ α} {note : α → ε} {a : α} {s s' : σ}
    {f : α → ExceptT δ (Traced ε σ) β} (h : act.run s = (a, s')) :
    Traced.run ((liftM (event act note) : ExceptT δ (Traced ε σ) α) >>= f).run s =
      let o := Traced.run (f a).run s'
      ⟨o.value, note a :: o.events, o.after⟩ := run_lift_bind (run_event h)

/-- A change of the state that is no event. -/
def change (update : σ → σ) : Traced ε σ Unit := fun s => ⟨(), [], update s⟩

/-! ## What all runs have in common -/

/-- From every state on, the action has only events of one kind, and a value of one kind. -/
def Keeps (p : ε → Prop) (q : α → Prop) (x : Traced ε σ α) : Prop :=
  ∀ s, (∀ e ∈ (x.run s).events, p e) ∧ q (x.run s).value

variable {p : ε → Prop} {q : α → Prop} {r : β → Prop}

theorem keeps_pure {a : α} (h : q a) : Keeps p q (pure a : Traced ε σ α) := fun _ =>
  ⟨List.forall_mem_nil _, h⟩

/-- **Actions one after the other keep to what each of them keeps to.** -/
theorem Keeps.bind {x : Traced ε σ α} {f : α → Traced ε σ β} (hx : Keeps p q x)
    (hf : ∀ a, q a → Keeps p r (f a)) : Keeps p r (x >>= f) := fun s => by
  obtain ⟨hevents, hvalue⟩ := hx s
  obtain ⟨hevents', hvalue'⟩ := hf _ hvalue (x.run s).after
  exact ⟨List.forall_mem_append.2 ⟨hevents, hevents'⟩, hvalue'⟩

theorem Keeps.mono {x : Traced ε σ α} {q' : α → Prop} (hx : Keeps p q x) (h : ∀ a, q a → q' a) :
    Keeps p q' x := fun s => ⟨(hx s).1, h _ (hx s).2⟩

theorem keeps_event {act : StateM σ α} {note : α → ε} (h : ∀ a, p (note a)) :
    Keeps p (fun _ => True) (event act note) := fun _ =>
  ⟨List.forall_mem_singleton.2 (h _), trivial⟩

/-! ## What the events have to do with the value -/

section Relates

variable {r : List ε → α → Prop} {t : List ε → β → Prop}

/-- From every state on, the events of the action and its value are so related. -/
def Relates (r : List ε → α → Prop) (x : Traced ε σ α) : Prop :=
  ∀ s, r (x.run s).events (x.run s).value

theorem relates_pure {a : α} (h : r [] a) : Relates r (pure a : Traced ε σ α) := fun _ => h

/-- **What comes later is related together with the events before it.** -/
theorem Relates.bind {x : Traced ε σ α} {f : α → Traced ε σ β} (hx : Relates r x)
    (hf : ∀ es a, r es a → Relates (fun es' b => t (es ++ es') b) (f a)) :
    Relates t (x >>= f) := fun s => hf _ _ (hx s) _

/-- An action that is one event comes first. -/
theorem relates_event_bind {act : StateM σ α} {note : α → ε} {f : α → Traced ε σ β}
    (h : ∀ a, Relates (fun es b => t (note a :: es) b) (f a)) : Relates t (event act note >>= f) :=
  fun _ => h _ _

theorem Relates.mono {x : Traced ε σ α} {r' : List ε → α → Prop} (hx : Relates r x)
    (h : ∀ es a, r es a → r' es a) : Relates r' x := fun s => h _ _ (hx s)

end Relates

/-! ## Actions that may end everything -/

section Ends

variable {δ : Type}

/-- From every state on, the action has only events of one kind, and where it does not end
everything a value of one kind. -/
def KeepsOk (p : ε → Prop) (q : α → Prop) (x : ExceptT δ (Traced ε σ) α) : Prop :=
  Keeps p (fun v => ∀ a, v = .ok a → q a) x.run

theorem keepsOk_pure {a : α} (h : q a) : KeepsOk p q (pure a : ExceptT δ (Traced ε σ) α) :=
  keeps_pure fun _ ha => Except.ok.inj ha ▸ h

theorem keepsOk_throw (e : δ) : KeepsOk p q (throw e : ExceptT δ (Traced ε σ) α) :=
  keeps_pure fun _ ha => by cases ha

theorem Keeps.lift {x : Traced ε σ α} (hx : Keeps p q x) :
    KeepsOk p q (liftM x : ExceptT δ (Traced ε σ) α) :=
  hx.bind fun _ hq => keeps_pure fun _ ha => Except.ok.inj ha ▸ hq

theorem KeepsOk.bind {x : ExceptT δ (Traced ε σ) α} {f : α → ExceptT δ (Traced ε σ) β}
    (hx : KeepsOk p q x) (hf : ∀ a, q a → KeepsOk p r (f a)) : KeepsOk p r (x >>= f) :=
  Keeps.bind hx fun v hv => match v with
    | .ok a => hf a (hv a rfl)
    | .error _ => keeps_pure fun _ hb => by cases hb

/-- An action that cannot end everything comes to its value. -/
theorem Relates.lift {x : Traced ε σ α} {r : List ε → α → Prop} {t : List ε → Except δ α → Prop}
    (hx : Relates r x) (h : ∀ es a, r es a → t es (.ok a)) :
    Relates t (liftM x : ExceptT δ (Traced ε σ) α).run := fun s => by
  rw [run_lift]
  exact h _ _ (hx s)

/-- An action that cannot end everything comes first. -/
theorem Relates.lift_bind {x : Traced ε σ α} {f : α → ExceptT δ (Traced ε σ) β}
    {r : List ε → α → Prop} {t : List ε → Except δ β → Prop} (hx : Relates r x)
    (hf : ∀ es a, r es a → Relates (fun es' v => t (es ++ es') v) (f a).run) :
    Relates t ((liftM x : ExceptT δ (Traced ε σ) α) >>= f).run := fun s => by
  simp only [ExceptT.run_bind, Traced.run_bind, Traced.run_lift]
  exact hf _ _ (hx s) _

/-- An action that is one event, and cannot end everything, comes first. -/
theorem relates_event_lift_bind {act : StateM σ α} {note : α → ε}
    {f : α → ExceptT δ (Traced ε σ) β} {t : List ε → Except δ β → Prop}
    (h : ∀ a, Relates (fun es v => t (note a :: es) v) (f a).run) :
    Relates t ((liftM (event act note) : ExceptT δ (Traced ε σ) α) >>= f).run := fun s => by
  simp only [ExceptT.run_bind, Traced.run_bind, Traced.run_lift]
  exact h _ _

/-- Where the first action ends everything, its events are all there are. -/
theorem Relates.bind_run {x : ExceptT δ (Traced ε σ) α} {f : α → ExceptT δ (Traced ε σ) β}
    {r : List ε → Except δ α → Prop} {t : List ε → Except δ β → Prop} (hx : Relates r x.run)
    (hok : ∀ es a, r es (.ok a) → Relates (fun es' v => t (es ++ es') v) (f a).run)
    (herror : ∀ es e, r es (.error e) → t es (.error e)) : Relates t (x >>= f).run :=
  hx.bind fun es v hv => match v with
    | .ok a => hok es a hv
    | .error e => relates_pure (by rw [List.append_nil]; exact herror es e hv)

end Ends

end Traced

namespace Host

/-- A call of the operating system, with what it was asked and what it answered. -/
inductive Call where
  | workingDirectory (answer : Except IoError Path)
  | environment (name : Text) (answer : Option Bytes)
  | isFile (path : Path) (answer : Bool)
  | readText (path : Path) (answer : Except IoError Text)
  | createScratch (answer : Except IoError Path)
  | writeScratch (path : Path) (text : Text) (answer : Except IoError Unit)
  | removeScratch (path : Path)
  | spawn (launch : Launch) (answer : Except IoError Pid)
  | feed (child : Pid) (input : Text) (answer : Except IoError Unit)
  | wait (child : Pid) (answer : Except IoError ExitStatus)
  | poll (child : Pid) (answer : Poll)
  | kill (child : Pid)
  | collect (child : Pid) (answer : Collected)
  | now (answer : Nat)
  | pause (answer : Nat)
  | print (channel : Channel) (text : Text)
  | trace (halt : Halt) (answer : Trace)

/-- The same host, which writes its calls down. -/
def recorded {σ : Type} (h : Host (StateM σ)) : Host (Traced Call σ) where
  byEnding := h.byEnding
  workingDirectory := .event h.workingDirectory .workingDirectory
  environment? name := .event (h.environment? name) (.environment name)
  isFile path := .event (h.isFile path) (.isFile path)
  readText path := .event (h.readText path) (.readText path)
  createScratch := .event h.createScratch .createScratch
  writeScratch path text := .event (h.writeScratch path text) (.writeScratch path text)
  removeScratch path := .event (h.removeScratch path) fun _ => .removeScratch path
  spawn launch := .event (h.spawn launch) (.spawn launch)
  feed child input := .event (h.feed child input) (.feed child input)
  wait child := .event (h.wait child) (.wait child)
  poll child := .event (h.poll child) (.poll child)
  kill child := .event (h.kill child) fun _ => .kill child
  collect child := .event (h.collect child) (.collect child)
  now := .event h.now .now
  pause := .event h.pause .pause
  print channel text := .event (h.print channel text) fun _ => .print channel text
  trace halt := .event (h.trace halt) (.trace halt)

end Host
end Doctest
