/-
# One executable between configurations

The executable of an interpreter is searched for when it is configured, or else when a use first
needs it, and then remembered, a path and the lack of one alike.  A history of uses follows the memo
from one use to the next (`Follows`, by induction in `follows_history`):

| memo | use | search | memo after it |
| --- | --- | --- | --- |
| any | needs no executable | none | the same |
| not settled | needs it | one | settled with what was found |
| settled | needs it | none | the same |
| any | configures one | one | settled with what was found |

So between two configurations the memo is settled once at most, and all that is answered, missed or
started there is what one search has found (`one_executable`), whatever becomes of files and `PATH`
meanwhile.
-/

import Doctest.Proofs.Interpreter.Uses

namespace Doctest
namespace Interpreter

variable {σ : Type}

/-- Records that follow the memo of the executable from one use to the next. -/
inductive Follows (h : Host (StateM σ)) :
    Memo (Traced Host.Call σ) (Option Path) → List (Record σ) → Prop
  | nil {x} : Follows h x []
  | idle {x r rs} : r.use.isConfiguring = false → r.Idle h → Follows h x rs → Follows h x (r :: rs)
  | consults {x r rs} : r.Consults h x.fetch →
      Follows h (x.set (x.fetch.run (r.needs h).after).value) rs → Follows h x (r :: rs)
  | configures {x r rs path} : r.Configures h path →
      Follows h (x.set ((h.recorded.resolveConfigured path).run r.before).value) rs →
        Follows h x (r :: rs)

/-- A history goes on with the interpreter that the first use leaves, if it leaves one. -/
theorem history_cons (h : Host (StateM σ)) (u : Use σ) (us : List (Use σ))
    (i : Interpreter (Traced Host.Call σ)) (s : σ) :
    ∃ rest, history h (u :: us) i s =
        ⟨u, s, (u.outcome h i s).value.map Prod.fst, (u.outcome h i s).events⟩ :: rest ∧
      (rest = [] ∨ ∃ a i', (u.outcome h i s).value = .ok (a, i') ∧
        rest = history h us i' (u.outcome h i s).after) := by
  refine ⟨_, rfl, ?_⟩
  cases (u.outcome h i s).value with
  | error e => exact .inl rfl
  | ok v => exact .inr ⟨v.1, v.2, rfl, rfl⟩

/-- **The memo is all that goes from one use to the next.** -/
theorem follows_history (h : Host (StateM σ)) (us : List (Use σ))
    {i : Interpreter (Traced Host.Call σ)} (hi : Looks i.executable.supplier) (s : σ) :
    Follows h i.executable (history h us i s) := by
  induction us generalizing i s with
  | nil => exact .nil
  | cons u us ih =>
    obtain ⟨rest, hhistory, hrest⟩ := history_cons h u us i s
    rw [hhistory]
    have hnext : ∀ x : Memo (Traced Host.Call σ) (Option Path), Looks x.supplier →
        (∀ a i', (u.outcome h i s).value = .ok (a, i') → i'.executable = x) → Follows h x rest := by
      intro x hx hvalue
      rcases hrest with rfl | ⟨a, i', ho, rfl⟩
      · exact .nil
      · obtain rfl := hvalue a i' ho
        exact ih hx _
    by_cases hconfiguring : u.isConfiguring = true
    · cases u with
      | withExecutable path =>
        have hbypassed := Use.bypassed_of_configuring h i path s
        exact .configures ⟨rfl, hbypassed.calls, hbypassed.blind⟩ (hnext _ hi hbypassed.next)
      | _ => cases hconfiguring
    · rw [Bool.not_eq_true] at hconfiguring
      cases hneeds : ((u.needs h).run s).value with
      | false =>
        have hbypassed := u.bypassed_of_not_needs h i s hneeds hconfiguring
        exact .idle hconfiguring ⟨hneeds, hbypassed.calls, hbypassed.blind⟩
          (hnext _ hi hbypassed.next)
      | true =>
        obtain ⟨o, hconsulted, hvalue, hevents⟩ := u.consulted_of_needs h hi s hneeds
        obtain ⟨own, hcalls, hown⟩ := hconsulted.calls
        -- The fetch comes after the look for the file to be run, if there is one.
        have hall : (u.outcome h i s).events = ((u.needs h).run s).events ++
            (i.executable.fetch.run ((u.needs h).run s).after).events ++ own := by
          rw [hevents, hcalls, List.append_assoc]
        have hsees : SeesOnly ((u.outcome h i s).value.map Prod.fst) (u.outcome h i s).events
            (i.executable.fetch.run ((u.needs h).run s).after).value := by
          rw [hevents, hvalue, SeesOnly.append_iff (u.looks_needs h s)]
          exact hconsulted.sees
        exact .consults ⟨hneeds, ⟨own, hall, hown⟩, hsees⟩
          (hnext _ hi fun a i' ha => hconsulted.next a i' (hvalue ▸ ha))

namespace Follows

variable {h : Host (StateM σ)} {x : Memo (Traced Host.Call σ) (Option Path)} {rs : List (Record σ)}

/-- **What is known stays known**, until an executable is configured. -/
theorem settled {found : Option Path} {rest : List (Record σ)} (hrs : Follows h x (rs ++ rest))
    (hx : x.value = some found) (hnone : ∀ r ∈ rs, r.use.isConfiguring = false) :
    ∀ r ∈ rs, r.Idle h ∨ r.Consults h (pure found) := by
  induction rs generalizing x with
  | nil => exact List.forall_mem_nil _
  | cons r rs ih =>
    obtain ⟨hr, hnone⟩ := List.forall_mem_cons.1 hnone
    refine List.forall_mem_cons.2 ?_
    cases hrs with
    | idle _ hidle hrs => exact ⟨.inl hidle, ih hrs hx hnone⟩
    | consults hconsults hrs =>
      rw [Memo.fetch_of_value hx] at hconsults hrs
      exact ⟨.inr hconsults, ih hrs rfl hnone⟩
    | configures hconfigures hrs =>
      rw [hconfigures.use] at hr
      cases hr

/-- **Nothing is searched for until it is needed**, and then once. -/
theorem unsettled {rest : List (Record σ)} (hrs : Follows h x (rs ++ rest)) (hx : x.value = none)
    (hnone : ∀ r ∈ rs, r.use.isConfiguring = false) :
    (∀ r ∈ rs, r.Idle h) ∨ ∃ idle first later, rs = idle ++ first :: later ∧
      (∀ r ∈ idle, r.Idle h) ∧ first.Consults h x.supplier ∧
      ∀ r ∈ later, r.Idle h ∨ r.Consults h (pure (x.supplier.run (first.needs h).after).value) := by
  induction rs generalizing x with
  | nil => exact .inl (List.forall_mem_nil _)
  | cons r rs ih =>
    obtain ⟨hr, hnone⟩ := List.forall_mem_cons.1 hnone
    cases hrs with
    | idle _ hidle hrs =>
      rcases ih hrs hx hnone with hall | ⟨idle, first, later, rfl, hidles, hfirst, hlater⟩
      · exact .inl (List.forall_mem_cons.2 ⟨hidle, hall⟩)
      · exact .inr ⟨r :: idle, first, later, rfl, List.forall_mem_cons.2 ⟨hidle, hidles⟩, hfirst,
          hlater⟩
    | consults hconsults hrs =>
      rw [Memo.fetch_of_none hx] at hconsults hrs
      exact .inr ⟨[], r, rs, rfl, List.forall_mem_nil _, hconsults, hrs.settled rfl hnone⟩
    | configures hconfigures hrs =>
      rw [hconfigures.use] at hr
      cases hr

/-- **A configuration settles what comes after it.** -/
theorem configured {before later : List (Record σ)} {r : Record σ} {path : Path}
    (hrs : Follows h x (before ++ r :: later)) (hr : r.use = .withExecutable path) :
    r.Configures h path ∧ ∃ y : Memo (Traced Host.Call σ) (Option Path),
      y.value = some ((h.recorded.resolveConfigured path).run r.before).value ∧
        Follows h y later := by
  induction before generalizing x with
  | nil =>
    cases hrs with
    | idle hconfiguring => rw [hr] at hconfiguring; cases hconfiguring
    | consults hconsults =>
      have hneeds := hconsults.needs
      rw [Record.needs, hr] at hneeds
      cases hneeds
    | configures hconfigures hrs =>
      obtain rfl : path = _ := Use.withExecutable.inj (hr.symm.trans hconfigures.use)
      exact ⟨hconfigures, _, rfl, hrs⟩
  | cons r' before ih =>
    -- Whatever was known before is replaced by the configuration, so the memo may be any.
    cases hrs with
    | idle _ _ hrs => exact ih hrs
    | consults _ hrs => exact ih hrs
    | configures _ hrs => exact ih hrs

/-- **Whatever path is seen starts at the root**, if what is known and what is found does. -/
theorem isAbsolute (hrs : Follows h x rs) (hrooted : h.Rooted) (hsupplier : h.Seeks x.supplier)
    (hx : ∀ p, x.value = some (some p) → p.isAbsolute = true) :
    ∀ r ∈ rs, ∀ p, Sees r.answer r.calls (some p) → p.isAbsolute = true := by
  induction hrs with
  | nil => exact List.forall_mem_nil _
  | idle _ hidle _ ih =>
    exact List.forall_mem_cons.2 ⟨fun p hp => absurd hp (hidle.blind _), ih hsupplier hx⟩
  | @consults x r rs hconsults _ ih =>
    have hfetch : ∀ p, (x.fetch.run (r.needs h).after).value = some p → p.isAbsolute = true := by
      intro p hp
      cases hvalue : x.value with
      | some found =>
        rw [Memo.fetch_of_value hvalue] at hp
        exact hx p (hvalue.trans (congrArg some hp))
      | none =>
        rw [Memo.fetch_of_none hvalue] at hp
        exact (hsupplier _).2 hrooted p hp
    exact List.forall_mem_cons.2 ⟨fun p hp => hfetch p ((hconsults.sees _).1 hp).symm,
      ih hsupplier fun p hp => hfetch p (Option.some.inj hp)⟩
  | @configures x r rs path hconfigures _ ih =>
    exact List.forall_mem_cons.2 ⟨fun p hp => absurd hp (hconfigures.blind _),
      ih hsupplier fun p hp =>
        (Host.seeks_resolveConfigured path _).2 hrooted p (Option.some.inj hp)⟩

end Follows

/-- The interpreter as it is built on the host: by its name, or as the default one. -/
inductive Built (h : Host (StateM σ)) : Interpreter (Traced Host.Call σ) → Prop
  | named (program : Text) : Built h (.named h.recorded program)
  | ruby (s : σ) : Built h ((ruby h.recorded).run s).value

/-- An interpreter that is built knows no executable, and will look for one. -/
theorem Built.unsettled {h : Host (StateM σ)} {i : Interpreter (Traced Host.Call σ)}
    (hi : i.Built h) : i.executable.value = none ∧ h.Seeks i.executable.supplier := by
  cases hi with
  | named program => exact ⟨rfl, Host.seeks_resolve program⟩
  | ruby s =>
    simp only [Interpreter.ruby, Traced.run_bind]
    rcases ((h.recorded.environment? programVariable).run s).value with _ | _ | ⟨c, path⟩
    · exact ⟨rfl, Host.seeks_resolve _⟩
    · exact ⟨rfl, Host.seeks_resolve _⟩
    · exact ⟨rfl, Host.seeks_resolveConfigured _⟩

/-- **One executable between configurations.**  A configuration makes one search there and then, and
every use up to the next one that needs the executable sees what it has found, without a search.
Before the first configuration the first use that needs the executable makes the one search, right
before it goes on, and all that need it later see what it has found.  Uses that need none search for
none and see none.  What is found may be a path, which starts at the root if the working directory
does, or that there is none, and changes of the surroundings, whatever they are, count as uses. -/
theorem one_executable (h : Host (StateM σ)) {i : Interpreter (Traced Host.Call σ)}
    (hi : i.Built h) (us : List (Use σ)) (s : σ) :
    let rs := history h us i s
    (∀ before r later path, rs = before ++ r :: later → r.use = .withExecutable path →
      r.Configures h path ∧ ∀ between rest, later = between ++ rest →
        (∀ r' ∈ between, r'.use.isConfiguring = false) →
          ∀ r' ∈ between, r'.Idle h ∨
            r'.Consults h (pure ((h.recorded.resolveConfigured path).run r.before).value)) ∧
    (∀ start rest, rs = start ++ rest → (∀ r ∈ start, r.use.isConfiguring = false) →
      (∀ r ∈ start, r.Idle h) ∨ ∃ idle first later, start = idle ++ first :: later ∧
        (∀ r ∈ idle, r.Idle h) ∧ first.Consults h i.executable.supplier ∧
        ∀ r ∈ later, r.Idle h ∨
          r.Consults h (pure (i.executable.supplier.run (first.needs h).after).value)) ∧
    (h.Rooted → ∀ r ∈ rs, ∀ p, Sees r.answer r.calls (some p) → p.isAbsolute = true) := by
  intro rs
  obtain ⟨hvalue, hseeks⟩ := hi.unsettled
  have hfollows : Follows h i.executable rs :=
    follows_history h us (hseeks.mono fun _ _ => trivial) s
  refine ⟨fun before r later path hrs hr => ?_, fun start rest hrs hnone => ?_, fun hrooted => ?_⟩
  · rw [hrs] at hfollows
    obtain ⟨hconfigures, y, hy, hlater⟩ := hfollows.configured hr
    refine ⟨hconfigures, fun between rest hbetween hnone => ?_⟩
    rw [hbetween] at hlater
    exact hlater.settled hy hnone
  · rw [hrs] at hfollows
    exact hfollows.unsettled hvalue hnone
  · exact hfollows.isAbsolute hrooted hseeks fun p hp => by simp [hvalue] at hp

/-- A host on which files come and go: they are its state.  The one entry of `PATH` is `/a`, and
every child ends at once without output. -/
def filesHost : Host (StateM (List Path)) where
  byEnding := false
  workingDirectory := pure (.ok (.ofText "/w".toList))
  environment? _ := pure (some (Path.ofText "/a".toList))
  isFile p := return (← get).contains p
  readText _ := pure (.error .notFound)
  createScratch := pure (.error .notFound)
  writeScratch _ _ := pure (.ok ())
  removeScratch _ := pure ()
  spawn _ := pure (.ok 0)
  feed _ _ := pure (.ok ())
  wait _ := pure (.ok (.exited 0))
  poll _ := pure ⟨.ok none, 0⟩
  kill _ := pure ()
  collect _ := pure (.bytes [])
  now := pure 0
  pause := pure 0
  print _ _ := pure ()
  trace _ := pure ⟨0, [], []⟩

/-- A program that is installed after it was missed stays missing, and a configured one is started
after it was removed.  Of the uses only the first one, the configuration and the run of a file look
at what is there. -/
theorem one_executable_removed :
    let i : Interpreter (Traced Host.Call (List Path)) := .named filesHost.recorded "ruby".toList
    let installed : Path := .ofText "/a/ruby".toList
    let configured : Path := .ofText "/b/ruby".toList
    let us : List (Use (List Path)) := [.locate, .change fun _ => [installed, configured], .run [],
      .withExecutable configured, .change fun _ => [], .runFile (.ofText "x.rb".toList),
      .withTimeout none, .locate, .runCode []]
    let rs := history filesHost us i []
    i.Built filesHost ∧
      rs.map (fun r => (r.calls.filter Host.Call.isLookup).length) = [2, 0, 0, 1, 0, 1, 0, 0, 0] ∧
      rs.map (fun r => r.answer.toOption.bind Answer.executable?) =
        [some none, none, some none, none, none, none, none, some (some configured), none] ∧
      (∀ r ∈ rs, ∀ p, Sees r.answer r.calls (some p) → p.isAbsolute = true) ∧
      ∀ r ∈ rs.drop 4, r.Idle filesHost ∨
        r.Consults filesHost (pure (some configured)) := by
  intro i installed configured us rs
  have hi : i.Built filesHost := .named _
  obtain ⟨hconfigured, -, habsolute⟩ := one_executable filesHost hi us []
  have hlength : rs.length = 9 := by decide +kernel
  have hsplit : rs = rs.take 3 ++ rs[3] :: rs.drop 4 := by
    rw [← List.drop_eq_getElem_cons, List.take_append_drop]
  have hnone : ∀ r ∈ rs.drop 4, r.use.isConfiguring = false := by decide +kernel
  have hfound : ((filesHost.recorded.resolveConfigured configured).run rs[3].before).value =
      some configured := by decide +kernel
  have hlater := (hconfigured _ _ _ _ hsplit rfl).2 _ [] (List.append_nil _).symm hnone
  rw [hfound] at hlater
  have hrooted : filesHost.Rooted := fun _ _ hcwd => Except.ok.inj hcwd ▸ rfl
  exact ⟨hi, by decide +kernel, by decide +kernel, habsolute hrooted, hlater⟩

end Interpreter
end Doctest
