/-
# No child is left behind

There are four ways of running a program with an interpreter:

| run | what it needs | input of the child |
| --- | --- | --- |
| `foreground` | the executable | that of the program |
| `piped` | the executable | the code |
| `file` | the file, then the executable | none |
| `script` | a scratch file with the script, then the executable | none |

Files come and go, children hang, and every call of the operating system may fail.  Whatever
happens, a run starts one child if it has what it needs and none otherwise, and there is no way out
of it past a child that was not reaped (`one_child_reaped`).  A scratch file is there as long as
something is done with the child.
-/

import Doctest.CommandLine.Program
import Doctest.Proofs.Interpreter.Executable
import Doctest.Proofs.Interpreter.Tending
import Doctest.Proofs.Text.Utf8

namespace Doctest

/-- Whether the call makes, writes or removes a scratch file. -/
def Host.Call.isScratch : Host.Call → Bool
  | .createScratch _ | .writeScratch .. | .removeScratch _ => true
  | _ => false

theorem Host.Call.isScratch_of_isLookup {c : Host.Call} (h : c.isLookup = true) :
    c.isScratch = false := by
  cases c <;> first | rfl | cases h

theorem Host.Call.isScratch_of_isTending {c : Host.Call} (h : c.isTending = true) :
    c.isScratch = false := by
  cases c <;> first | rfl | cases h

/-- Whoever tends a child starts none. -/
theorem Host.Call.isSpawn_of_isTending {c : Host.Call} (h : c.isTending = true) :
    c.isSpawn = false := by
  cases c <;> first | rfl | cases h

theorem countP_isSpawn_eq_zero {calls : List Host.Call} (h : ∀ c ∈ calls, c.isMarked = false) :
    calls.countP Host.Call.isSpawn = 0 :=
  List.countP_eq_zero.2 fun c hc hspawn => by
    have hmarked := Host.Call.isMarked_of_isSpawn hspawn
    rw [h c hc] at hmarked
    cases hmarked

namespace Interpreter

open Traced

variable {σ α : Type}

/-! ## Runs -/

/-- A way of running a program with an interpreter. -/
inductive Run where
  | foreground (arguments : List Bytes)
  | piped (code : Text)
  | file (path : Path)
  | script (lib : Path) (code : Text)

namespace Run

variable (h : Host (StateM σ))

/-- The run, on a host that writes its calls down. -/
def perform : Run → Session (Traced Host.Call σ) Answer
  | .foreground arguments => Answer.ended <$> Session.run h.recorded arguments
  | .piped code => Answer.output <$> Session.runCode h.recorded code
  | .file path => Answer.output <$> Session.runFile h.recorded path
  | .script lib code => Answer.output <$> (Program.bench h.recorded lib).capture code

/-- What the run comes to with an interpreter, from a state on. -/
def outcome (r : Run) (i : Interpreter (Traced Host.Call σ)) (s : σ) :
    Outcome Host.Call σ (Except Halt (Answer × Interpreter (Traced Host.Call σ))) :=
  Traced.run (StateT.run (r.perform h) i).run s

/-- Whether a script can be run from a scratch file, which is made and written first. -/
def scriptReady (script : Text) : Traced Host.Call σ Bool := do
  match ← h.recorded.createScratch with
  | .error _ => return false
  | .ok path =>
    match ← h.recorded.writeScratch path script with
    | .error _ => return false
    | .ok () => h.recorded.isFile path

/-- Whether there is what is to be run. -/
def ready : Run → Traced Host.Call σ Bool
  | .foreground _ | .piped _ => pure true
  | .file path => h.recorded.isFile path
  | .script lib code => scriptReady h (Script.wrap code lib.display)

end Run

/-- What an answer fails with, if it does. -/
def Answer.failure? : Except Halt Answer → Option RunError
  | .ok (.path (.error e)) | .ok (.ended (.error e)) | .ok (.output (.error e)) => some e
  | _ => none

/-- An interpreter that was built on the host, after uses and runs of it. -/
inductive Reachable (h : Host (StateM σ)) : Interpreter (Traced Host.Call σ) → Prop
  | built {i} : i.Built h → Reachable h i
  | used {i i' a s} (u : Use σ) : Reachable h i → (u.outcome h i s).value = .ok (a, i') →
      Reachable h i'
  | ran {i i' a s} (r : Run) : Reachable h i → (r.outcome h i s).value = .ok (a, i') →
      Reachable h i'

/-! ## What comes of a run -/

/-- What is run keeps to its course and starts one child or none, and the interpreter will look for
its executable as before. -/
structure Orderly (i : Interpreter (Traced Host.Call σ)) (starts : Bool) (calls : List Host.Call)
    (v : Except Halt (Except RunError α × Interpreter (Traced Host.Call σ))) : Prop where
  runs : Runs i.timeout calls (Child.failure? (v.map Prod.fst))
  spawns : calls.countP Host.Call.isSpawn = starts.toNat
  next : ∀ r i', v = .ok (r, i') → i'.executable.supplier = i.executable.supplier

section Orderly

variable {i : Interpreter (Traced Host.Call σ)}

/-- Nothing is started and nothing is late. -/
theorem orderly_idle {i' : Interpreter (Traced Host.Call σ)} {e : RunError} {calls : List Host.Call}
    (hcalls : ∀ c ∈ calls, c.isMarked = false) (hlate : ∀ command limit, e ≠ .timeout command limit)
    (hi' : i'.executable.supplier = i.executable.supplier) :
    Orderly (α := α) i false calls (.ok (.error e, i')) := by
  refine ⟨runs_idle hcalls fun command limit he => hlate command limit (Option.some.inj he), ?_,
    fun r i'' ho => ?_⟩
  · exact countP_isSpawn_eq_zero hcalls
  · obtain ⟨-, rfl⟩ := Prod.mk.inj (Except.ok.inj ho)
    exact hi'

/-- What is started and then tended is one child. -/
theorem orderly_started {launch : Launch} {answer : Except IoError Pid} {rest : List Host.Call}
    {v : Except Halt (Except RunError α)} (found : Option Path)
    (hruns : Runs i.timeout (.spawn launch answer :: rest) (Child.failure? v))
    (hrest : ∀ c ∈ rest, c.isTending = true) :
    Orderly i true (.spawn launch answer :: rest) (v.map (·, i.settle found)) := by
  refine ⟨?_, ?_, fun r i' hv => ?_⟩
  · have hvalue : (v.map (·, i.settle found)).map Prod.fst = v := by cases v <;> rfl
    rwa [hvalue]
  · rw [List.countP_cons_of_pos rfl, List.countP_eq_zero.2 fun c hc => ?_]
    · rfl
    · simp [Host.Call.isSpawn_of_isTending (hrest c hc)]
  · cases v with
    | error e => cases hv
    | ok r' =>
      obtain ⟨-, rfl⟩ := Prod.mk.inj (Except.ok.inj hv)
      rfl

/-- Calls around it that do not matter to a child change nothing. -/
theorem Orderly.surrounded {starts : Bool} {before calls after : List Host.Call}
    {v : Except Halt (Except RunError α × Interpreter (Traced Host.Call σ))}
    (ho : Orderly i starts calls v)
    (hbefore : ∀ c ∈ before, c.isMarked = false) (hafter : ∀ c ∈ after, c.isMarked = false) :
    Orderly i starts (before ++ calls ++ after) v := by
  refine ⟨ho.runs.surrounded hbefore hafter, ?_, ho.next⟩
  rw [List.countP_append, List.countP_append, ho.spawns, countP_isSpawn_eq_zero hbefore,
    countP_isSpawn_eq_zero hafter, Nat.zero_add, Nat.add_zero]

theorem Orderly.preceded {starts : Bool} {before calls : List Host.Call}
    {v : Except Halt (Except RunError α × Interpreter (Traced Host.Call σ))}
    (ho : Orderly i starts calls v) (hbefore : ∀ c ∈ before, c.isMarked = false) :
    Orderly i starts (before ++ calls) v := by
  have hall := ho.surrounded hbefore (List.forall_mem_nil _)
  rwa [List.append_nil] at hall

end Orderly

/-- **What needs the executable starts it, if it is there.** -/
theorem orderly_launch
    {act : Path → Option Duration → ExceptT Halt (Traced Host.Call σ) (Except RunError α)}
    {i : Interpreter (Traced Host.Call σ)} (hi : Looks i.executable.supplier)
    (hlaunches : ∀ p limit?, Child.Launches p (act p limit?))
    (hruns : ∀ p limit?, Relates (fun calls v => Runs limit? calls (Child.failure? v))
      (act p limit?).run) (s : σ) :
    let o := Traced.run (StateT.run (Session.launch act) i).run s
    Orderly i (i.executable.fetch.run s).value.isSome o.events o.value ∧
      ∀ c ∈ o.events, c.isScratch = false := by
  have hlooks := (looks_fetch hi s).1
  rw [run_launch]
  generalize i.executable.fetch.run s = fetched at hlooks ⊢
  obtain ⟨found, events, after⟩ := fetched
  have hunmarked : ∀ c ∈ events, c.isMarked = false := fun c hc =>
    Host.Call.isMarked_of_isLookup (hlooks c hc)
  have hunscratched : ∀ c ∈ events, c.isScratch = false := fun c hc =>
    Host.Call.isScratch_of_isLookup (hlooks c hc)
  cases found with
  | none => exact ⟨orderly_idle hunmarked nofun rfl, hunscratched⟩
  | some p =>
    obtain ⟨launch, answer, rest, hevents, -, hrest, -⟩ := hlaunches p i.timeout after
    have hact := hruns p i.timeout after
    rw [hevents] at hact
    have hstarted := (orderly_started (some p) hact hrest).preceded hunmarked
    dsimp only
    rw [hevents]
    refine ⟨hstarted, List.forall_mem_append.2 ⟨hunscratched, List.forall_mem_cons.2 ⟨rfl, ?_⟩⟩⟩
    exact fun c hc => Host.Call.isScratch_of_isTending (hrest c hc)

/-- **A file is run if it is there.** -/
theorem orderly_runFile (h : Host (StateM σ)) {i : Interpreter (Traced Host.Call σ)}
    (hi : Looks i.executable.supplier) (path : Path) (s : σ) :
    let there := (h.recorded.isFile path).run s
    let o := Traced.run (StateT.run (Session.runFile h.recorded path) i).run s
    Orderly i (there.value && (i.executable.fetch.run there.after).value.isSome) o.events o.value ∧
      (∃ rest, o.events = there.events ++ rest) ∧ ∀ c ∈ o.events, c.isScratch = false := by
  dsimp only
  rw [Session.runFile_eq_launch, run_call_bind]
  have hisFile : ∀ c ∈ ((h.recorded.isFile path).run s).events,
      c.isMarked = false ∧ c.isScratch = false := List.forall_mem_singleton.2 ⟨rfl, rfl⟩
  generalize (h.recorded.isFile path).run s = there at hisFile ⊢
  obtain ⟨there, events, after⟩ := there
  have hunmarked : ∀ c ∈ events, c.isMarked = false := fun c hc => (hisFile c hc).1
  have hunscratched : ∀ c ∈ events, c.isScratch = false := fun c hc => (hisFile c hc).2
  cases there with
  | false =>
    have hidle : Orderly (α := Text) i false events (.ok (.error (.fileNotFound path), i)) :=
      orderly_idle hunmarked nofun rfl
    refine ⟨?_, ⟨[], rfl⟩, ?_⟩
    · show Orderly i false (events ++ []) _
      rw [List.append_nil]
      exact hidle
    · show ∀ c ∈ events ++ [], _
      rwa [List.append_nil]
  | true =>
    obtain ⟨horderly, hquiet⟩ := orderly_launch hi
      (fun p limit? => Child.launches_capture (h := h) p [path] none limit?)
      (fun p limit? => Child.relates_capture (h := h) p [path] none limit?) after
    exact ⟨horderly.preceded hunmarked, ⟨_, rfl⟩, List.forall_mem_append.2 ⟨hunscratched, hquiet⟩⟩

/-! ## The scratch file of an example -/

/-- What becomes of the scratch file for a script: it is not made, or it is removed at the end.  In
between nothing else is done with scratch files, and nothing is started unless it was written. -/
inductive ScratchLife (script : Text) : List Host.Call → Prop
  | refused {e : IoError} : ScratchLife script [.createScratch (.error e)]
  | unwritten {path : Path} {e : IoError} : ScratchLife script
      [.createScratch (.ok path), .writeScratch path script (.error e), .removeScratch path]
  | used {path : Path} {calls : List Host.Call} : (∀ c ∈ calls, c.isScratch = false) →
      ScratchLife script (.createScratch (.ok path) :: .writeScratch path script (.ok ()) ::
        (calls ++ [.removeScratch path]))

theorem run_ensuring (act : Session (Traced Host.Call σ) α) (after : Traced Host.Call σ Unit)
    (i : Interpreter (Traced Host.Call σ)) (s : σ) :
    Traced.run (StateT.run (Session.ensuring act after) i).run s =
      let o := Traced.run (StateT.run act i).run s
      ⟨o.value, o.events ++ (after.run o.after).events, (after.run o.after).after⟩ := by
  simp [Session.ensuring, StateT.run, ExceptT.run, ExceptT.mk]

/-- **A scratch file outlives the child that is run from it.** -/
theorem orderly_runScript (h : Host (StateM σ)) {i : Interpreter (Traced Host.Call σ)}
    (hi : Looks i.executable.supplier) (script : Text) (s : σ) :
    let there := (Run.scriptReady h script).run s
    let o := Traced.run (StateT.run (Session.runScript h.recorded script) i).run s
    Orderly i (there.value && (i.executable.fetch.run there.after).value.isSome) o.events o.value ∧
      (∃ rest, o.events = there.events ++ rest) ∧ ScratchLife script o.events := by
  dsimp only
  rw [Run.scriptReady, Session.runScript, run_call_bind, Traced.run_bind]
  obtain ⟨made, after, hmade⟩ : ∃ made after,
      h.recorded.createScratch.run s = ⟨made, [.createScratch made], after⟩ := ⟨_, _, rfl⟩
  rw [hmade]
  cases made with
  | error e => exact ⟨orderly_idle (List.forall_mem_singleton.2 rfl) nofun rfl, ⟨[], rfl⟩, .refused⟩
  | ok path =>
    dsimp only
    rw [run_call_bind, Traced.run_bind]
    obtain ⟨written, after', hwritten⟩ : ∃ written after',
        (h.recorded.writeScratch path script).run after =
          ⟨written, [.writeScratch path script written], after'⟩ := ⟨_, _, rfl⟩
    rw [hwritten]
    have hmaking : ∀ c ∈ [Host.Call.createScratch (.ok path), .writeScratch path script written],
        c.isMarked = false :=
      List.forall_mem_cons.2 ⟨rfl, List.forall_mem_singleton.2 rfl⟩
    have hremoving : ∀ c ∈ [Host.Call.removeScratch path], c.isMarked = false :=
      List.forall_mem_singleton.2 rfl
    cases written with
    | error e =>
      have hidle : Orderly (α := Text) i false
          [.createScratch (.ok path), .writeScratch path script (.error e), .removeScratch path]
          (.ok (.error (.io e), i)) :=
        orderly_idle (List.forall_mem_append.2 ⟨hmaking, hremoving⟩) nofun rfl
      exact ⟨hidle, ⟨[.removeScratch path], rfl⟩, .unwritten⟩
    | ok _ =>
      dsimp only
      rw [run_ensuring]
      obtain ⟨horderly, ⟨rest, hrest⟩, hquiet⟩ := orderly_runFile h hi path after'
      refine ⟨horderly.surrounded hmaking hremoving, ?_, .used hquiet⟩
      dsimp only
      rw [hrest]
      exact ⟨rest ++ [.removeScratch path], by simp; rfl⟩

/-! ## Every run -/

theorem capture_eq_map {m : Type → Type} [Monad m] [LawfulMonad m] (h : Host m) (lib : Path)
    (code : Text) : (Program.bench h lib).capture code =
      Except.map Script.chomp <$> Session.runScript h (Script.wrap code lib.display) := by
  rw [Bench.capture, map_eq_pure_bind]
  refine bind_congr fun r => ?_
  cases r <;> rfl

/-- What comes of a run that answers with what is run. -/
structure Run.Answers (h : Host (StateM σ)) (i : Interpreter (Traced Host.Call σ)) (r : Run)
    (s : σ) : Prop where
  begins : ∃ rest, (r.outcome h i s).events = ((r.ready h).run s).events ++ rest
  runs : Runs i.timeout (r.outcome h i s).events
    (Answer.failure? ((r.outcome h i s).value.map Prod.fst))
  spawns : (r.outcome h i s).events.countP Host.Call.isSpawn =
    (((r.ready h).run s).value &&
      (i.executable.fetch.run ((r.ready h).run s).after).value.isSome).toNat
  next : ∀ a i', (r.outcome h i s).value = .ok (a, i') →
    i'.executable.supplier = i.executable.supplier

/-- **What is run tells what is answered.** -/
theorem Run.answers_of_orderly {h : Host (StateM σ)} {i : Interpreter (Traced Host.Call σ)}
    {r : Run} {s : σ} (act : Session (Traced Host.Call σ) (Except RunError α))
    (wrap : Except RunError α → Answer) (hr : r.perform h = wrap <$> act)
    (hwrap : ∀ v, Answer.failure? (.ok (wrap v)) = Child.failure? (.ok v))
    (ho : let there := (r.ready h).run s
      let found := i.executable.fetch.run there.after
      let o := Traced.run (StateT.run act i).run s
      Orderly i (there.value && found.value.isSome) o.events o.value ∧
        ∃ rest, o.events = there.events ++ rest) : r.Answers h i s := by
  have hout : r.outcome h i s =
      let o := Traced.run (StateT.run act i).run s
      ⟨o.value.map fun x => (wrap x.1, x.2), o.events, o.after⟩ := by
    rw [Run.outcome, hr]
    simp only [StateT.run_map, ExceptT.run_map, Traced.run_map]
  have hfailure : ∀ v : Except Halt (Except RunError α × Interpreter (Traced Host.Call σ)),
      Answer.failure? ((v.map fun x => (wrap x.1, x.2)).map Prod.fst) =
        Child.failure? (v.map Prod.fst) := fun v => match v with
    | .error _ => rfl
    | .ok x => hwrap x.1
  obtain ⟨⟨hruns, hspawns, hnext⟩, hbegins⟩ := ho
  refine ⟨hout ▸ hbegins, ?_, hout ▸ hspawns, fun a i' ha => ?_⟩
  · rw [hout]
    dsimp only
    rw [hfailure]
    exact hruns
  · rw [hout] at ha
    dsimp only at ha
    cases hv : (Traced.run (StateT.run act i).run s).value with
    | error e => rw [hv] at ha; cases ha
    | ok x =>
      rw [hv] at ha
      obtain ⟨-, rfl⟩ := Prod.mk.inj (Except.ok.inj ha)
      exact hnext _ _ hv

/-- **However a program is run**, one child is started if there is what is to be run, and none
otherwise. -/
theorem Run.answers (h : Host (StateM σ)) {i : Interpreter (Traced Host.Call σ)}
    (hi : Looks i.executable.supplier) (r : Run) (s : σ) : r.Answers h i s := by
  cases r with
  | foreground arguments =>
    refine answers_of_orderly _ Answer.ended rfl (fun v => by cases v <;> rfl) ⟨?_, _, rfl⟩
    rw [Session.run_eq_launch]
    exact (orderly_launch hi (fun p limit? => Child.launches_run p arguments limit?)
      (fun p limit? => Child.relates_run p arguments limit?) s).1
  | piped code =>
    refine answers_of_orderly _ Answer.output rfl (fun v => by cases v <;> rfl) ⟨?_, _, rfl⟩
    rw [Session.runCode_eq_launch]
    exact (orderly_launch hi (fun p limit? => Child.launches_capture p [] (some code) limit?)
      (fun p limit? => Child.relates_capture p [] (some code) limit?) s).1
  | file path =>
    obtain ⟨horderly, hbegins, -⟩ := orderly_runFile h hi path s
    exact answers_of_orderly _ Answer.output rfl (fun v => by cases v <;> rfl) ⟨horderly, hbegins⟩
  | script lib code =>
    obtain ⟨horderly, hbegins, -⟩ := orderly_runScript h hi (Script.wrap code lib.display) s
    refine answers_of_orderly (Session.runScript h.recorded (Script.wrap code lib.display))
      (fun v => .output (v.map Script.chomp)) ?_ (fun v => by cases v <;> rfl) ⟨horderly, hbegins⟩
    rw [perform, capture_eq_map, Functor.map_map]

/-- A use leaves an interpreter that will look for its executable as before. -/
theorem Use.supplier_of_outcome {h : Host (StateM σ)} {i i' : Interpreter (Traced Host.Call σ)}
    {a : Answer} {s : σ} (hi : Looks i.executable.supplier) (u : Use σ)
    (ho : (u.outcome h i s).value = .ok (a, i')) :
    i'.executable.supplier = i.executable.supplier := by
  by_cases hconfiguring : u.isConfiguring = true
  · cases u with
    | withExecutable path => rw [(Use.bypassed_of_configuring h i path s).next a i' ho]; rfl
    | _ => cases hconfiguring
  · rw [Bool.not_eq_true] at hconfiguring
    cases hneeds : ((u.needs h).run s).value with
    | false => rw [(u.bypassed_of_not_needs h i s hneeds hconfiguring).next a i' ho]
    | true =>
      obtain ⟨o, hconsulted, hvalue, -⟩ := u.consulted_of_needs h hi s hneeds
      rw [hconsulted.next a i' (hvalue ▸ ho)]
      rfl

/-- **Whatever was done with an interpreter**, it only looks when it searches for its executable. -/
theorem Reachable.looks {h : Host (StateM σ)} {i : Interpreter (Traced Host.Call σ)}
    (hi : i.Reachable h) : Looks i.executable.supplier := by
  induction hi with
  | built hi => exact hi.unsettled.2.mono fun _ _ => trivial
  | used u _ ho ih => rwa [u.supplier_of_outcome ih ho]
  | ran r _ ho ih => rwa [(r.answers h ih _).next _ _ ho]

/-- **A run of a script uses one scratch file.** -/
theorem Run.scratchLife (h : Host (StateM σ)) {i : Interpreter (Traced Host.Call σ)}
    (hi : Looks i.executable.supplier) (lib : Path) (code : Text) (s : σ) :
    ScratchLife (Script.wrap code lib.display) ((Run.script lib code).outcome h i s).events := by
  rw [outcome, perform, capture_eq_map]
  simp only [StateT.run_map, ExceptT.run_map, Traced.run_map]
  exact (orderly_runScript h hi (Script.wrap code lib.display) s).2.2

/-- **One child, and it is reaped.**  However the operating system answers, a run of an interpreter
starts one child if there is what is to be run and the executable is found, and none otherwise.  On
every way out a child that was started is reaped: its status was collected, or it was killed and
then waited for; it is killed at most once, and never after its status was collected.  A run that
says that the time is up has seen the child running when it was.  The scratch file of an example is
there from before the start until all is done with the child, and then it is removed. -/
theorem one_child_reaped (h : Host (StateM σ)) {i : Interpreter (Traced Host.Call σ)}
    (hi : i.Reachable h) (r : Run) (s : σ) :
    let there := (r.ready h).run s
    let found := i.executable.fetch.run there.after
    let o := r.outcome h i s
    (∃ rest, o.events = there.events ++ rest) ∧
    o.events.countP Host.Call.isSpawn = (there.value && found.value.isSome).toNat ∧
    Tidy o.events ∧
    (∀ command limit, Answer.failure? (o.value.map Prod.fst) = some (.timeout command limit) →
      i.timeout = some limit ∧ TimesOut limit o.events) ∧
    ∀ lib code, r = .script lib code → ScratchLife (Script.wrap code lib.display) o.events := by
  intro there found o
  have hanswers := r.answers h hi.looks s
  refine ⟨hanswers.begins, hanswers.spawns, hanswers.runs.course.tidy.of_marked,
    hanswers.runs.timely, fun lib code hr => ?_⟩
  subst hr
  exact Run.scratchLife h hi.looks lib code s

/-- A host on which every child runs until it is killed.  A look at it takes no time. -/
def hungHost : Host (StateM Unit) where
  byEnding := false
  workingDirectory := pure (.ok (.ofText "/w".toList))
  environment? _ := pure (some (Path.ofText "/a".toList))
  isFile _ := pure true
  readText _ := pure (.error .notFound)
  createScratch := pure (.ok (.ofText "/tmp/x.rb".toList))
  writeScratch _ _ := pure (.ok ())
  removeScratch _ := pure ()
  spawn _ := pure (.ok 7)
  feed _ _ := pure (.ok ())
  wait _ := pure (.ok (.signaled 9))
  poll _ := pure ⟨.ok none, 0⟩
  kill _ := pure ()
  collect _ := pure (.bytes [])
  now := pure 0
  pause := pure 0
  print _ _ := pure ()
  trace _ := pure ⟨0, [], []⟩

/-- An example that hangs is killed after its time limit of 25 ms, at the fourth look, and its
scratch file is removed. -/
theorem one_child_reaped_hung :
    let i := (named hungHost.recorded "ruby".toList).withTimeout (some (.ofMillis 25))
    let r : Run := .script (.ofText "lib".toList) "loop\n".toList
    let o := r.outcome hungHost i ()
    i.Reachable hungHost ∧
      Answer.failure? (o.value.map Prod.fst) =
        some (.timeout "\x60/a/ruby /tmp/x.rb\x60".toList (.ofMillis 25)) ∧
      o.events.countP Host.Call.isSpawn = 1 ∧ Tidy o.events ∧ TimesOut (.ofMillis 25) o.events ∧
      ScratchLife (Script.wrap "loop\n".toList "lib".toList) o.events := by
  intro i r o
  have hbuilt : Reachable hungHost (named hungHost.recorded "ruby".toList) := .built (.named _)
  have hi : i.Reachable hungHost :=
    .used (s := ()) (.withTimeout (some (.ofMillis 25))) hbuilt rfl
  have hlate : Answer.failure? (o.value.map Prod.fst) =
      some (.timeout "\x60/a/ruby /tmp/x.rb\x60".toList (.ofMillis 25)) := by decide +kernel
  obtain ⟨-, hspawns, htidy, htimes, hlife⟩ := one_child_reaped hungHost hi r ()
  have hscript := hlife _ _ rfl
  rw [Path.display_ofText] at hscript
  exact ⟨hi, hlate, hspawns, htidy, (htimes _ _ hlate).2, hscript⟩

end Interpreter
end Doctest
