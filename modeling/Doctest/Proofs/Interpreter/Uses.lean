/-
# Uses of an interpreter

A client asks an interpreter for its executable, runs it in one of its ways, sets its time limit or
configures another executable, while its surroundings change:

| use | needs the executable |
| --- | --- |
| `locate`, `run`, `runCode` | yes |
| `runFile` | if its file is there |
| `withTimeout`, `withExecutable`, a change | no |

A use is recorded with its answer and the calls that it made.  These tell which executable it has
seen: the answer may say so, or that there is none, and a child that is started has one.

A use that needs the executable fetches it from the memo, before all else but the look for its file,
and then sees what was fetched and nothing else (`Use.consulted_of_needs`).  Every other use leaves
the memo alone, but for a configuration, which makes its search and sets it
(`Use.bypassed_of_configuring`).
-/

import Doctest.Interpreter.Basic
import Doctest.Proofs.Interpreter.Launch
import Doctest.Proofs.Interpreter.Search

namespace Doctest

/-! ## The memo -/

namespace Memo

variable {m : Type → Type} {α : Type}

/-- The value, from where it is to be had: as it is known, or from the action. -/
def fetch [Monad m] (x : Memo m α) : m α :=
  match x.value with
  | some v => pure v
  | none => x.supplier

theorem fetch_of_value [Monad m] {x : Memo m α} {v : α} (h : x.value = some v) :
    x.fetch = pure v := by
  rw [fetch, h]

theorem fetch_of_none [Monad m] {x : Memo m α} (h : x.value = none) : x.fetch = x.supplier := by
  rw [fetch, h]

/-- **The value that is fetched is known from then on.** -/
theorem get_eq [Monad m] [LawfulMonad m] (x : Memo m α) :
    x.get = x.fetch >>= fun v => pure (v, x.set v) := by
  obtain ⟨value, supplier⟩ := x
  cases value with
  | none => rfl
  | some v => exact (pure_bind v fun w => pure (w, (⟨some v, supplier⟩ : Memo m α).set w)).symm

end Memo

/-! ## What needs the executable -/

namespace Session

variable {m : Type → Type} [Monad m] {α : Type}

/-- Does something with the executable and the time limit, if the executable is there. -/
def launch (act : Path → Option Duration → ExceptT Halt m (Except RunError α)) :
    Session m (Except RunError α) := do
  match ← locate with
  | .error e => return .error e
  | .ok executable => liftM (act executable (← get).timeout)

theorem run_eq_launch (h : Host m) (arguments : List Bytes) :
    run h arguments = launch fun executable limit? => Child.run h executable arguments limit? := rfl

theorem runCode_eq_launch (h : Host m) (code : Text) :
    runCode h code = launch fun executable limit? =>
      Child.capture h executable [] (some code) limit? := rfl

theorem runFile_eq_launch (h : Host m) (path : Path) :
    runFile h path = do
      if ← call (h.isFile path) then
        launch fun executable limit? => Child.capture h executable [path] none limit?
      else return .error (.fileNotFound path) := rfl

end Session

namespace Interpreter

variable {σ α : Type}

/-- The interpreter that knows its executable, or that there is none. -/
def settle {m : Type → Type} (i : Interpreter m) (found : Option Path) : Interpreter m :=
  { i with executable := i.executable.set found }

/-- What an interpreter answers that is asked for its executable. -/
def located {m : Type → Type} (i : Interpreter m) : Option Path → Except RunError Path
  | some path => .ok path
  | none => .error (.interpreterNotFound i.program i.origin)

/-- A call of the host comes first, with its events. -/
theorem run_call_bind {β : Type} (call : Traced Host.Call σ α)
    (next : α → Session (Traced Host.Call σ) β) (i : Interpreter (Traced Host.Call σ)) (s : σ) :
    Traced.run (StateT.run (Session.call call >>= next) i).run s =
      let o := Traced.run (StateT.run (next (call.run s).value) i).run (call.run s).after
      ⟨o.value, (call.run s).events ++ o.events, o.after⟩ := by
  simp only [Session.call, StateT.run_bind, StateT.run_monadLift, monadLift_self, bind_assoc,
    pure_bind, ExceptT.run_bind, Traced.run_bind, Traced.run_lift]

/-- **Asking for the executable** fetches it, and knows it from then on. -/
theorem run_locate (i : Interpreter (Traced Host.Call σ)) (s : σ) :
    Traced.run (StateT.run Session.locate i).run s =
      let found := i.executable.fetch.run s
      ⟨.ok (i.located found.value, i.settle found.value), found.events, found.after⟩ := by
  unfold Session.locate
  simp only [Session.call, Memo.get_eq, bind_pure_comp, liftM_map, bind_map_left, StateT.run_bind,
    StateT.run_get, StateT.run_monadLift, monadLift_self, StateT.run_set, pure_bind,
    ExceptT.run_bind, Traced.run_bind, Traced.run_lift]
  cases (i.executable.fetch.run s).value <;> simp [located, settle]

/-- **What needs the executable fetches it first**, and does nothing more if there is none. -/
theorem run_launch
    (act : Path → Option Duration → ExceptT Halt (Traced Host.Call σ) (Except RunError α))
    (i : Interpreter (Traced Host.Call σ)) (s : σ) :
    Traced.run (StateT.run (Session.launch act) i).run s =
      let found := i.executable.fetch.run s
      match found.value with
      | none => ⟨.ok (.error (.interpreterNotFound i.program i.origin), i.settle none),
          found.events, found.after⟩
      | some p =>
        let o := Traced.run (act p i.timeout).run found.after
        ⟨o.value.map (·, i.settle (some p)), found.events ++ o.events, o.after⟩ := by
  unfold Session.launch
  simp only [StateT.run_bind, ExceptT.run_bind, Traced.run_bind, run_locate]
  cases (i.executable.fetch.run s).value with
  | none => simp [located]
  | some p => simp [located, settle]

/-! ## Uses and their records -/

/-- What a client does with an interpreter, or what becomes of its surroundings in between. -/
inductive Use (σ : Type) where
  | locate
  | run (arguments : List Bytes)
  | runCode (code : Text)
  | runFile (path : Path)
  | withTimeout (limit? : Option Duration)
  | withExecutable (path : Path)
  | change (update : σ → σ)

/-- What a use answers. -/
inductive Answer where
  | done
  | path (r : Except RunError Path)
  | ended (r : Except RunError Unit)
  | output (r : Except RunError Text)

/-- What a result says of the executable: that there is none, or nothing. -/
def missing? : Except RunError α → Option (Option Path)
  | .error (.interpreterNotFound ..) => some none
  | _ => none

theorem missing?_of_other {r : Except RunError α} (hr : RunError.Other r) : missing? r = none := by
  cases r with
  | ok _ => rfl
  | error e =>
    cases e with
    | interpreterNotFound program origin => exact absurd rfl (hr program origin)
    | _ => rfl

/-- What an answer says of the executable: its path, that there is none, or nothing. -/
def Answer.executable? : Answer → Option (Option Path)
  | .done => none
  | .path (.ok p) => some (some p)
  | .path r => missing? r
  | .ended r => missing? r
  | .output r => missing? r

/-- A use with what it answered and the calls that it made, from the state that it began in. -/
structure Record (σ : Type) where
  use : Use σ
  before : σ
  answer : Except Halt Answer
  calls : List Host.Call

namespace Use

/-- Whether the use configures an executable. -/
def isConfiguring : Use σ → Bool
  | .withExecutable _ => true
  | _ => false

variable (h : Host (StateM σ))

/-- The use, on a host that writes its calls down. -/
def perform : Use σ → Session (Traced Host.Call σ) Answer
  | .locate => Answer.path <$> Session.locate
  | .run arguments => Answer.ended <$> Session.run h.recorded arguments
  | .runCode code => Answer.output <$> Session.runCode h.recorded code
  | .runFile path => Answer.output <$> Session.runFile h.recorded path
  | .withTimeout limit? => do
    set ((← get).withTimeout limit?)
    return .done
  | .withExecutable path => do
    set (← Session.call ((← get).withExecutable h.recorded path))
    return .done
  | .change update => do
    Session.call (.change update)
    return .done

/-- What the use comes to with an interpreter, from a state on. -/
def outcome (u : Use σ) (i : Interpreter (Traced Host.Call σ)) (s : σ) :
    Traced.Outcome Host.Call σ (Except Halt (Answer × Interpreter (Traced Host.Call σ))) :=
  Traced.run (StateT.run (u.perform h) i).run s

/-- Whether the use needs the executable; where a file is to be run, it is looked for first. -/
def needs : Use σ → Traced Host.Call σ Bool
  | .locate | .run _ | .runCode _ => pure true
  | .runFile path => h.recorded.isFile path
  | .withTimeout _ | .withExecutable _ | .change _ => pure false

end Use

/-- The records of some uses one after the other, up to one that ends everything. -/
def history (h : Host (StateM σ)) :
    List (Use σ) → Interpreter (Traced Host.Call σ) → σ → List (Record σ)
  | [], _, _ => []
  | u :: us, i, s =>
    let o := u.outcome h i s
    ⟨u, s, o.value.map Prod.fst, o.events⟩ ::
      match o.value with
      | .ok (_, i) => history h us i o.after
      | .error _ => []

/-- An answer and calls that tell the executable: the answer says so, or it was started. -/
inductive Sees (answer : Except Halt Answer) (calls : List Host.Call) : Option Path → Prop
  | answered {a : Answer} {found : Option Path} : answer = .ok a → a.executable? = some found →
      Sees answer calls found
  | started {launch : Launch} {child : Except IoError Pid} : .spawn launch child ∈ calls →
      Sees answer calls (some launch.executable)

/-- They tell the one outcome, and no other. -/
def SeesOnly (answer : Except Halt Answer) (calls : List Host.Call) (found : Option Path) : Prop :=
  ∀ found', Sees answer calls found' ↔ found' = found

namespace Record

variable (h : Host (StateM σ)) (r : Record σ)

/-- What the use needs, when it began. -/
def needs : Traced.Outcome Host.Call σ Bool := (r.use.needs h).run r.before

/-- The use does not need the executable, searches for none and sees none. -/
structure Idle : Prop where
  needless : (r.needs h).value = false
  calls : r.calls = (r.needs h).events
  blind : ∀ found, ¬ Sees r.answer r.calls found

/-- The use needs the executable: it has it from the action, which looks for it before the use goes
on, and sees what that has found.  The use itself looks for nothing. -/
structure Consults (fetch : Traced Host.Call σ (Option Path)) : Prop where
  needs : (r.needs h).value = true
  calls : ∃ rest, r.calls = (r.needs h).events ++ (fetch.run (r.needs h).after).events ++ rest ∧
    ∀ c ∈ rest, c.isLookup = false
  sees : SeesOnly r.answer r.calls (fetch.run (r.needs h).after).value

/-- The use configures the executable, and makes the search for it there and then. -/
structure Configures (path : Path) : Prop where
  use : r.use = .withExecutable path
  calls : r.calls = ((h.recorded.resolveConfigured path).run r.before).events
  blind : ∀ found, ¬ Sees r.answer r.calls found

end Record

/-! ## One use -/

/-- Looking before tells nothing. -/
theorem Sees.append_iff {answer : Except Halt Answer} {checks calls : List Host.Call}
    {found : Option Path} (hchecks : ∀ c ∈ checks, c.isLookup = true) :
    Sees answer (checks ++ calls) found ↔ Sees answer calls found := by
  constructor
  · rintro (⟨ha, hfound⟩ | hstart)
    · exact .answered ha hfound
    · rcases List.mem_append.1 hstart with hcheck | hcall
      · cases hchecks _ hcheck
      · exact .started hcall
  · rintro (⟨ha, hfound⟩ | hstart)
    · exact .answered ha hfound
    · exact .started (List.mem_append_right _ hstart)

/-- Where calls only look, the answer alone tells the executable. -/
theorem Sees.iff_of_looks {a : Answer} {calls : List Host.Call} {found : Option Path}
    (hcalls : ∀ c ∈ calls, c.isLookup = true) :
    Sees (.ok a) calls found ↔ a.executable? = some found := by
  constructor
  · rintro (⟨ha, hfound⟩ | hstart)
    · exact Except.ok.inj ha ▸ hfound
    · cases hcalls _ hstart
  · exact fun hfound => .answered rfl hfound

/-- Where a child is started and then tended, it tells the executable, if the answer does not. -/
theorem Sees.iff_of_started {answer : Except Halt Answer} {launch : Launch}
    {child : Except IoError Pid} {rest : List Host.Call} {found : Option Path}
    (hanswer : ∀ a, answer = .ok a → a.executable? = none)
    (hrest : ∀ c ∈ rest, c.isTending = true) :
    Sees answer (.spawn launch child :: rest) found ↔ found = some launch.executable := by
  constructor
  · rintro (⟨ha, hfound⟩ | hstart)
    · cases (hanswer _ ha).symm.trans hfound
    · rcases List.mem_cons.1 hstart with hfirst | hlater
      · cases hfirst
        rfl
      · cases hrest _ hlater
  · rintro rfl
    exact .started List.mem_cons_self

theorem SeesOnly.append_iff {answer : Except Halt Answer} {checks calls : List Host.Call}
    {found : Option Path} (hchecks : ∀ c ∈ checks, c.isLookup = true) :
    SeesOnly answer (checks ++ calls) found ↔ SeesOnly answer calls found :=
  forall_congr' fun _ => iff_congr (Sees.append_iff hchecks) Iff.rfl

/-- The action only looks, whatever it finds. -/
abbrev Looks (fetch : Traced Host.Call σ (Option Path)) : Prop :=
  Traced.Keeps (Host.Call.isLookup · = true) (fun _ => True) fetch

theorem looks_fetch {x : Memo (Traced Host.Call σ) (Option Path)} (hx : Looks x.supplier) :
    Looks x.fetch := by
  cases hvalue : x.value with
  | some found => exact Memo.fetch_of_value hvalue ▸ Traced.keeps_pure trivial
  | none => exact Memo.fetch_of_none hvalue ▸ hx

/-- What comes of a use that needs the executable, once it is fetched: it looks for nothing more, it
sees what was fetched and nothing else, and the interpreter knows it. -/
structure Consulted (i : Interpreter (Traced Host.Call σ))
    (fetched : Traced.Outcome Host.Call σ (Option Path))
    (o : Traced.Outcome Host.Call σ (Except Halt (Answer × Interpreter (Traced Host.Call σ)))) :
    Prop where
  calls : ∃ rest, o.events = fetched.events ++ rest ∧ ∀ c ∈ rest, c.isLookup = false
  sees : SeesOnly (o.value.map Prod.fst) o.events fetched.value
  next : ∀ a i', o.value = .ok (a, i') → i'.executable = i.executable.set fetched.value

/-- A use that ends with the answer on what was fetched. -/
theorem consulted_answer {i : Interpreter (Traced Host.Call σ)} {a : Answer} {s : σ}
    {found : Option Path} {events : List Host.Call} (hevents : ∀ c ∈ events, c.isLookup = true)
    (ha : a.executable? = some found) :
    Consulted i ⟨found, events, s⟩ ⟨.ok (a, i.settle found), events, s⟩ := by
  refine ⟨⟨[], by simp, List.forall_mem_nil _⟩, fun found' => ?_, fun a i' ho => ?_⟩
  · show Sees (.ok a) events found' ↔ _
    rw [Sees.iff_of_looks hevents, ha]
    exact ⟨fun h => (Option.some.inj h).symm, congrArg some ∘ Eq.symm⟩
  · obtain ⟨-, rfl⟩ := Prod.mk.inj (Except.ok.inj ho)
    rfl

/-- A use that starts what was fetched, and whose answer is on something else. -/
theorem consulted_started {i : Interpreter (Traced Host.Call σ)} {launch : Launch}
    {child : Except IoError Pid} {events rest : List Host.Call} {s s' : σ}
    {v : Except Halt (Answer × Interpreter (Traced Host.Call σ))}
    (hevents : ∀ c ∈ events, c.isLookup = true) (hrest : ∀ c ∈ rest, c.isTending = true)
    (hv : ∀ a i', v = .ok (a, i') →
      a.executable? = none ∧ i' = i.settle (some launch.executable)) :
    Consulted i ⟨some launch.executable, events, s⟩
      ⟨v, events ++ .spawn launch child :: rest, s'⟩ := by
  have hown : ∀ c ∈ Host.Call.spawn launch child :: rest, c.isLookup = false :=
    List.forall_mem_cons.2 ⟨rfl, fun c hc => Host.Call.isLookup_of_isTending (hrest c hc)⟩
  have hquiet : ∀ a, v.map Prod.fst = .ok a → a.executable? = none := by
    intro a ha
    cases v with
    | error e => cases ha
    | ok x => exact Except.ok.inj ha ▸ (hv x.1 x.2 rfl).1
  refine ⟨⟨_, rfl, hown⟩, ?_, fun a i' ho => ?_⟩
  · rw [SeesOnly.append_iff hevents]
    exact fun _ => Sees.iff_of_started hquiet hrest
  · rw [(hv a i' ho).2]
    rfl

/-- **What is answered is what was fetched.** -/
theorem consulted_locate {i : Interpreter (Traced Host.Call σ)} (hi : Looks i.executable.supplier)
    (s : σ) :
    Consulted i (i.executable.fetch.run s)
      (Traced.run (StateT.run (Answer.path <$> Session.locate) i).run s) := by
  have htells : ∀ found, (Answer.path (i.located found)).executable? = some found := by
    intro found
    cases found <;> rfl
  simp only [StateT.run_map, ExceptT.run_map, Traced.run_map, run_locate]
  exact consulted_answer (looks_fetch hi s).1 (htells _)

/-- **What is started is what was fetched.** -/
theorem consulted_launch
    {act : Path → Option Duration → ExceptT Halt (Traced Host.Call σ) (Except RunError α)}
    {wrap : Except RunError α → Answer} {i : Interpreter (Traced Host.Call σ)}
    (hact : ∀ p limit?, Child.Launches p (act p limit?))
    (hmissing : ∀ program origin,
      (wrap (.error (.interpreterNotFound program origin))).executable? = some none)
    (hother : ∀ r, RunError.Other r → (wrap r).executable? = none)
    (hi : Looks i.executable.supplier) (s : σ) :
    Consulted i (i.executable.fetch.run s)
      (Traced.run (StateT.run (wrap <$> Session.launch act) i).run s) := by
  have hlooks := (looks_fetch hi s).1
  simp only [StateT.run_map, ExceptT.run_map, Traced.run_map, run_launch]
  -- How the executable was fetched no longer matters, only what came of it.
  generalize i.executable.fetch.run s = fetched at hlooks ⊢
  obtain ⟨found, events, after⟩ := fetched
  cases found with
  | none => exact consulted_answer hlooks (hmissing i.program i.origin)
  | some p =>
    obtain ⟨launch, child, rest, hevents, rfl, hrest, hvalue⟩ := hact p i.timeout after
    dsimp only
    rw [hevents]
    refine consulted_started hlooks hrest fun a i' ho => ?_
    generalize (Traced.run (act launch.executable i.timeout).run after).value = v at hvalue ho
    cases v with
    | error e => cases ho
    | ok r =>
      obtain ⟨rfl, rfl⟩ := Prod.mk.inj (Except.ok.inj ho)
      exact ⟨hother r (hvalue r rfl), rfl⟩

/-- Whether a use needs the executable is told by looking, if at all. -/
theorem Use.looks_needs (h : Host (StateM σ)) (u : Use σ) (s : σ) :
    ∀ c ∈ ((u.needs h).run s).events, c.isLookup = true := by
  cases u with
  | runFile path => exact List.forall_mem_singleton.2 rfl
  | _ => exact List.forall_mem_nil _

/-- **A use that needs the executable consults it**, after it has looked for the file to be run. -/
theorem Use.consulted_of_needs (h : Host (StateM σ)) {i : Interpreter (Traced Host.Call σ)}
    (hi : Looks i.executable.supplier) (u : Use σ) (s : σ)
    (hneeds : ((u.needs h).run s).value = true) :
    ∃ o, Consulted i (i.executable.fetch.run ((u.needs h).run s).after) o ∧
      (u.outcome h i s).value = o.value ∧
      (u.outcome h i s).events = ((u.needs h).run s).events ++ o.events := by
  cases u with
  | locate => exact ⟨_, consulted_locate hi s, rfl, rfl⟩
  | run arguments =>
    rw [outcome, perform, Session.run_eq_launch]
    exact ⟨_, consulted_launch (fun p limit? => Child.launches_run p arguments limit?)
      (fun _ _ => rfl) (fun _ => missing?_of_other) hi s, rfl, rfl⟩
  | runCode code =>
    rw [outcome, perform, Session.runCode_eq_launch]
    exact ⟨_, consulted_launch (fun p limit? => Child.launches_capture p [] (some code) limit?)
      (fun _ _ => rfl) (fun _ => missing?_of_other) hi s, rfl, rfl⟩
  | runFile path =>
    have hthere : ((h.recorded.isFile path).run s).value = true := hneeds
    refine ⟨Traced.run (StateT.run (Answer.output <$> Session.launch fun executable limit? =>
      Child.capture h.recorded executable [path] none limit?) i).run ((h.isFile path).run s).2,
      consulted_launch (fun p limit? => Child.launches_capture p [path] none limit?)
        (fun _ _ => rfl) (fun _ => missing?_of_other) hi _, ?_⟩
    rw [outcome, perform, Session.runFile_eq_launch, map_bind, run_call_bind]
    simp only [hthere, if_true]
    exact ⟨rfl, rfl⟩
  | withTimeout limit? => cases hneeds
  | withExecutable path => cases hneeds
  | change update => cases hneeds

/-- What comes of a use that does not need the executable: it makes the calls, it sees none, and it
leaves the memo as `x`. -/
structure Bypassed (x : Memo (Traced Host.Call σ) (Option Path)) (calls : List Host.Call)
    (o : Traced.Outcome Host.Call σ (Except Halt (Answer × Interpreter (Traced Host.Call σ)))) :
    Prop where
  calls : o.events = calls
  blind : ∀ found, ¬ Sees (o.value.map Prod.fst) o.events found
  next : ∀ a i', o.value = .ok (a, i') → i'.executable = x

theorem bypassed_answer {i : Interpreter (Traced Host.Call σ)} {a : Answer} {s : σ}
    {events : List Host.Call} (hevents : ∀ c ∈ events, c.isLookup = true)
    (ha : a.executable? = none) : Bypassed i.executable events ⟨.ok (a, i), events, s⟩ := by
  refine ⟨rfl, fun found hsees => ?_, fun a i' ho => ?_⟩
  · cases ha.symm.trans ((Sees.iff_of_looks hevents).1 hsees)
  · obtain ⟨-, rfl⟩ := Prod.mk.inj (Except.ok.inj ho)
    rfl

/-- A use that does not need the executable, and does not configure one, leaves it alone. -/
theorem Use.bypassed_of_not_needs (h : Host (StateM σ)) (i : Interpreter (Traced Host.Call σ))
    (u : Use σ) (s : σ) (hneeds : ((u.needs h).run s).value = false)
    (hconfiguring : u.isConfiguring = false) :
    Bypassed i.executable ((u.needs h).run s).events (u.outcome h i s) := by
  cases u with
  | locate => cases hneeds
  | run arguments => cases hneeds
  | runCode code => cases hneeds
  | withExecutable path => cases hconfiguring
  | runFile path =>
    have hmissing : ((h.recorded.isFile path).run s).value = false := hneeds
    have hout : (Use.runFile path).outcome h i s =
        ⟨.ok (.output (.error (.fileNotFound path)), i), ((h.recorded.isFile path).run s).events,
          ((h.recorded.isFile path).run s).after⟩ := by
      rw [outcome, perform, Session.runFile_eq_launch, map_bind, run_call_bind]
      simp only [hmissing, Bool.false_eq_true, if_false]
      rfl
    rw [hout]
    exact bypassed_answer (looks_needs h (.runFile path) s) rfl
  | withTimeout limit? =>
    exact bypassed_answer (i := i.withTimeout limit?) (a := .done) (List.forall_mem_nil _) rfl
  | change update => exact bypassed_answer (a := .done) (List.forall_mem_nil _) rfl

/-- **A configuration searches there and then**, and the interpreter knows what it has found. -/
theorem Use.bypassed_of_configuring (h : Host (StateM σ)) (i : Interpreter (Traced Host.Call σ))
    (path : Path) (s : σ) :
    let found := (h.recorded.resolveConfigured path).run s
    Bypassed (i.executable.set found.value) found.events
      ((Use.withExecutable path).outcome h i s) := by
  intro found
  have hout : (Use.withExecutable path).outcome h i s =
      ⟨.ok (.done, { i with origin := path.display, executable := i.executable.set found.value }),
        found.events, found.after⟩ := by
    simp [found, outcome, perform, Session.call, Interpreter.withExecutable, Except.map]
  rw [hout]
  exact bypassed_answer
    (i := { i with origin := path.display, executable := i.executable.set found.value })
    (a := .done) (Host.seeks_resolveConfigured path s).1 rfl

end Interpreter
end Doctest
