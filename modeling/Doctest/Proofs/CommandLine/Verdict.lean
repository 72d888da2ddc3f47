/-
# One verdict

On a host whose files stay as they are, with an interpreter whose answer to a script depends on the
script alone, the desk of the program keeps a frame (`Program.within_desk`): the interpreter changes
in that it comes to know its executable, and the text on the error stream grows.  From the desk the
exit code goes through the session to the whole program (`Program.ends_of_runs`):

| step | exit code |
| --- | --- |
| the settings cannot be had | 1 |
| the session ends suddenly | does not happen on such a host |
| the session comes back | the one it comes back with |

So however sections are run, the exit code is the verdict on them (`Program.one_verdict`).
-/

import Doctest.CommandLine.Program
import Doctest.Proofs.CommandLine.ExitCode
import Doctest.Proofs.Interpreter.Outlook

namespace Doctest

open Std.Do

variable {σ α : Type}

namespace Session

/-- The session comes to a value and shows some text on the error stream, with which the property
holds; what is kept stays so. -/
def Comes (kept : Interpreter (StateM σ) → σ → Prop) (err : σ → Text) (act : Session (StateM σ) α)
    (p : Text → α → Prop) : Prop :=
  ∀ i s, kept i s → ∃ a t i' s', (StateT.run act i).run.run s = (.ok (a, i'), s') ∧ kept i' s' ∧
    err s' = err s ++ t ∧ p t a

variable {kept : Interpreter (StateM σ) → σ → Prop} {err : σ → Text}

/-- The frame of what is kept and of the error stream; nothing ends suddenly in it. -/
def frame (kept : Interpreter (StateM σ) → σ → Prop) (err : σ → Text) :
    Frame (.arg (Interpreter (StateM σ)) (.except Halt (.arg σ .pure))) where
  holds shown := fun i s => ⌜kept i s ∧ err s = shown⌝
  stops := ExceptConds.false

/-- What has to be true where a session has come back, or has ended suddenly. -/
def atEnd (Q : PostCond α (.arg (Interpreter (StateM σ)) (.except Halt (.arg σ .pure)))) :
    Except Halt (α × Interpreter (StateM σ)) → Assertion (.arg σ .pure)
  | .ok x => Q.1 x.1 x.2
  | .error halt => Q.2.1 halt

theorem wp_eq (act : Session (StateM σ) α)
    (Q : PostCond α (.arg (Interpreter (StateM σ)) (.except Halt (.arg σ .pure))))
    (i : Interpreter (StateM σ)) (s : σ) :
    wp⟦act⟧ Q i s = atEnd Q ((StateT.run act i).run.run s).1 ((StateT.run act i).run.run s).2 := by
  have hexcept : wp⟦(StateT.run act i).run⟧ (atEnd Q, Q.2.2) = wp⟦act⟧ Q i := WP.ExceptT_run _
  rw [← hexcept]
  rfl

/-- **In the frame a session comes back.** -/
theorem tells_frame_iff {act : Session (StateM σ) α} {p : Text → α → Prop} :
    (frame kept err).Tells act p ↔ Comes kept err act p := by
  constructor
  · intro htells i s hkept
    have hend := Triple.iff.1 (htells (err s)) i s ⟨hkept, rfl⟩
    rw [wp_eq] at hend
    cases hrun : (StateT.run act i).run.run s with
    | mk r s' =>
      rw [hrun] at hend
      cases r with
      | error halt => exact hend.elim
      | ok x =>
        obtain ⟨t, ht, hkept', herr⟩ := hend
        exact ⟨x.1, t, x.2, s', rfl, hkept', herr, ht⟩
  · intro hcomes shown
    refine Triple.iff.2 fun i s hin => ?_
    obtain ⟨hkept, rfl⟩ := hin
    obtain ⟨a, t, i', s', hrun, hkept', herr, ht⟩ := hcomes i s hkept
    rw [wp_eq, hrun]
    exact ⟨t, ht, hkept', herr⟩

end Session

/-! ## A steady host -/

/-- On the host files stay as they are, and what a script comes to depends on the script alone; what
is shown on the error stream stays there.  The bench `w` says what the files hold and what the
scripts come to. -/
structure Host.Steady (h : Host (StateM σ)) (kept : Interpreter (StateM σ) → σ → Prop)
    (err : σ → Text) (w : Bench Id) : Prop where
  readText : ∀ path, Session.Comes kept err (Session.call (h.readText path)) fun t x =>
    t = [] ∧ x = (w.readText path).run
  print : ∀ text, Session.Comes kept err (Session.call (h.print .err text)) fun t _ => t = text
  runScript : ∀ script, Session.Comes kept err (Session.runScript h script) fun _ x =>
    x = (w.runScript script).run

namespace Program

variable {h : Host (StateM σ)} {kept : Interpreter (StateM σ) → σ → Prop} {err : σ → Text}
  {w : Bench Id}

/-- **On a steady host the desk of the program keeps a frame** and finds what the bench says. -/
theorem within_desk (hs : h.Steady kept err w) (colored : Bool) :
    (desk h w.lib colored).Within (Session.frame kept err) (.of w) where
  bench :=
    { lib_eq := rfl
      readText := fun path =>
        (Session.tells_frame_iff.2 (hs.readText path)).mono fun _ _ hx => hx.2
      runScript := fun script => Session.tells_frame_iff.2 (hs.runScript script) }
  print text := Session.tells_frame_iff.2 (hs.print text)

/-- The options come to settings, an interpreter and a library, and to the state after. -/
def Opens (h : Host (StateM σ)) (o : Options) (s : σ) (c : Config) (i : Interpreter (StateM σ))
    (lib : Path) (s' : σ) : Prop :=
  ∃ s₁, (Config.load h o.config).run s = (.ok c, s₁) ∧ (harness h o c).run s₁ = ((i, lib), s')

/-- **A session that comes back with an exit code ends the program with it.** -/
theorem run_of_session {o : Options} {command : Command} {args : List Bytes} {s s₂ s' : σ}
    {c : Config} {i i' : Interpreter (StateM σ)} {lib : Path} {code : Nat}
    (hargs : Invocation.ofArguments args = .run o command) (hopens : Opens h o s c i lib s₂)
    (hrun : (StateT.run ((desk h lib (!o.noColor)).run (Session.runEach h) c command)
      i).run.run s₂ =
      (.ok (code, i'), s')) : (run h args).run s = (code, s') := by
  obtain ⟨s₁, hload, hharness⟩ := hopens
  rw [run, hargs]
  show (runCommand h o command).run s = _
  rw [runCommand, Host.run_bind_of_run hload]
  dsimp only
  rw [Host.run_bind_of_run hharness]
  dsimp only
  rw [Host.run_bind_of_run hrun]
  rfl

/-- Without settings nothing is run. -/
theorem run_of_no_settings {o : Options} {command : Command} {args : List Bytes} {s s₁ : σ}
    {e : ConfigError} (hargs : Invocation.ofArguments args = .run o command)
    (hload : (Config.load h o.config).run s = (.error e, s₁)) : ((run h args).run s).1 = 1 := by
  rw [run, hargs]
  show ((runCommand h o command).run s).1 = _
  rw [runCommand, Host.run_bind_of_run hload]
  rfl

/-- The program runs the cases: it ends with the exit code of a tally of them, and its result is
what is shown last. -/
def Ends (h : Host (StateM σ)) (err : σ → Text) (args : List Bytes) (s s₂ : σ) (colored : Bool)
    (w : Bench Id) (cs : List TitledCase) (code : Nat) : Prop :=
  ∃ s' t, (run h args).run s = (code, s') ∧ err s' = err s₂ ++ t ∧ Tally.Closes w colored cs t code

/-- **A command that runs cases ends with the verdict on them**, and shows what became of them. -/
theorem ends_of_runs (hs : h.Steady kept err w) {o : Options} {c : Config}
    {i : Interpreter (StateM σ)} {s s₂ : σ} (hopens : Opens h o s c i w.lib s₂) (hkept : kept i s₂)
    {args : List Bytes} {command : Command} (hargs : Invocation.ofArguments args = .run o command)
    {cs : List TitledCase} (hruns : command.Runs c cs) :
    Ends h err args s s₂ (!o.noColor) w cs (w.verdict (cs.map TitledCase.case)) := by
  have htells := (within_desk hs (!o.noColor)).tells_run (Session.runEach h) hruns
  obtain ⟨code, t, i', s', hrun, -, herr, hcloses⟩ := Session.tells_frame_iff.1 htells i s₂ hkept
  obtain rfl := hcloses.code_eq_verdict
  exact ⟨s', t, run_of_session hargs hopens hrun, herr, hcloses⟩

/-- Without documents there is nothing to check. -/
theorem run_check_of_no_documents (hs : h.Steady kept err w) {o : Options} {c : Config}
    {i : Interpreter (StateM σ)} {s s₂ : σ} (hopens : Opens h o s c i w.lib s₂) (hkept : kept i s₂)
    {args : List Bytes} {style? : Option Style}
    (hargs : Invocation.ofArguments args = .run o (.check style?)) (hnone : c.documents = []) :
    ((run h args).run s).1 = 1 := by
  have hcheck : (Session.frame kept err).Yields
      ((desk h w.lib (!o.noColor)).run (Session.runEach h) c (.check style?)) (· = 1) := by
    show (Session.frame kept err).Yields (Desk.check _ c style?) _
    rw [Desk.check, if_pos hnone]
    exact ((within_desk hs _).print _).bind fun _ _ _ => Frame.yields_pure rfl
  obtain ⟨code, t, i', s', hrun, -, -, rfl⟩ := Session.tells_frame_iff.1 hcheck i s₂ hkept
  rw [run_of_session hargs hopens hrun]

/-- **All ways to run sections reach one verdict.**  Without settings every command ends with 1.
With some, on a steady host, the program with `spec`, with `test` and the assertion agree on the
same sections of a document: the exit code is 0, and the assertion has no message, exactly if every
section passes that is run by itself.  A check of the listed documents comes to the verdict on their
sections in spec style, and in unit style to that on those of them that have a test; these are all
of them unless documents are shown alike that are not the same.  Each time the program ends with the
result of a tally of the cases that were run: each is counted once, each failed one has an entry,
the text that is shown lists the entries, and the exit code is 1 exactly if there is one. -/
theorem one_verdict (hs : h.Steady kept err w) {o : Options} {c : Config}
    {i : Interpreter (StateM σ)} {s s₂ : σ} (hopens : Opens h o s c i w.lib s₂)
    (hkept : kept i s₂) :
    (∀ s e s', (Config.load h o.config).run s = (.error e, s') → ∀ args command,
      Invocation.ofArguments args = .run o command → ((run h args).run s).1 = 1) ∧
    (∀ document titles,
      let listed := SectionCase.ofSections document titles
      let group := (SpecGroup.ofSections document titles).titled
      let suite := (UnitSuite.ofSections document titles).titled
      let code := w.verdict listed
      (code = 0 ↔ ∀ title ∈ titles, ∃ n, w.result ⟨document, title⟩ = .ok n) ∧
      (∀ title, Session.Comes kept err
        ((bench h w.lib).resultOfFile Bench.equality document title)
        fun _ result => result = w.result ⟨document, title⟩) ∧
      (Session.Comes kept err ((bench h w.lib).assertSections document titles) fun _ message =>
        message = none ↔ code = 0) ∧
      group.map TitledCase.case = listed ∧
      SectionCase.Firsts (suite.map TitledCase.case) listed ∧
      (∀ args, Invocation.ofArguments args = .run o (.spec document titles) →
        Ends h err args s s₂ (!o.noColor) w group code) ∧
      ∀ args, Invocation.ofArguments args = .run o (.test document titles) →
        Ends h err args s s₂ (!o.noColor) w suite code) ∧
    ∀ style?,
      let style := style?.getD c.style
      let listed := DocumentEntry.listed c.documents
      let cs := style.cases c.documents
      (style = .spec → cs.map TitledCase.case = listed) ∧
      (style = .unit → SectionCase.Firsts (cs.map TitledCase.case) listed) ∧
      (style = .spec ∨ DocumentEntry.ShownApart c.documents →
        w.verdict (cs.map TitledCase.case) = w.verdict listed) ∧
      ∀ args, Invocation.ofArguments args = .run o (.check style?) →
        (c.documents = [] → ((run h args).run s).1 = 1) ∧
        (c.documents ≠ [] →
          Ends h err args s s₂ (!o.noColor) w cs (w.verdict (cs.map TitledCase.case))) := by
  have hdesk := within_desk hs (!o.noColor)
  refine ⟨fun _ _ _ hload _ _ hargs => run_of_no_settings hargs hload, fun document titles => ?_,
    fun style? => ?_⟩
  · intro listed group suite code
    have hgroup : group.map TitledCase.case = listed := SpecGroup.case_titled document titles
    have hsuite : SectionCase.Firsts (suite.map TitledCase.case) listed :=
      UnitSuite.firsts_ofSections document titles
    have hcode : code = 0 ↔ ∀ c ∈ listed, w.Passes c := Bench.verdict_eq_zero_iff
    have hsame : w.verdict (suite.map TitledCase.case) = code :=
      Bench.verdict_congr hsuite.mem_iff_of_ofSections
    refine ⟨hcode.trans List.forall_mem_map, fun title => ?_, ?_, hgroup, hsuite,
      fun args hargs => ?_, fun args hargs => ?_⟩
    · exact Session.tells_frame_iff.1 ((hdesk.bench.yields_resultOfFile document title).mono
        fun _ hresult => hresult.eq_run)
    · exact Session.tells_frame_iff.1 ((hdesk.bench.yields_assertSections document titles).mono
        fun _ hmessage => hmessage.trans hcode.symm)
    · have hends := ends_of_runs hs hopens hkept hargs (.spec document titles)
      rwa [SpecGroup.case_titled] at hends
    · have hends := ends_of_runs hs hopens hkept hargs (.test document titles)
      rwa [hsame] at hends
  · intro style listed cs
    refine ⟨fun hstyle => ?_, fun hstyle => ?_, Style.verdict_cases, fun args hargs =>
      ⟨run_check_of_no_documents hs hopens hkept hargs, fun hsome =>
        ends_of_runs hs hopens hkept hargs (.check style? hsome)⟩⟩
    · show (style.cases c.documents).map _ = _
      rw [hstyle]
      exact SpecGroup.case_titled_ofEntries c.documents
    · show SectionCase.Firsts ((style.cases c.documents).map _) _
      rw [hstyle]
      exact Registry.firsts_suites c.documents

/-- What a host knows that runs one script at a time: the last script, and what was shown. -/
structure Paper where
  script : Text
  shown : Text
deriving DecidableEq

/-- A host on which what starts at the root is a file, and every child ends at once with what there
is to say to its script. -/
def paperHost (files : Path → Except IoError Text) (answer : Text → Text) :
    Host (StateM Paper) where
  byEnding := false
  workingDirectory := pure (.ok (.ofText "/w".toList))
  environment? _ := pure none
  isFile p := pure p.isAbsolute
  readText p := pure (files p)
  createScratch := pure (.ok (.ofText "/tmp/x.rb".toList))
  writeScratch _ script := do
    modify ({ · with script := script })
    return .ok ()
  removeScratch _ := pure ()
  spawn _ := pure (.ok 7)
  feed _ _ := pure (.ok ())
  wait _ := pure (.ok (.exited 0))
  poll _ := pure ⟨.ok none, 0⟩
  kill _ := pure ()
  collect _ := return .bytes (Text.encode (answer (← get).script))
  now := pure 0
  pause := pure 0
  print channel t := modify fun s => if channel = .err then { s with shown := s.shown ++ t } else s
  trace _ := pure ⟨0, [], []⟩

/-- Without a limit, and with an executable, its interpreters stay as they are. -/
theorem steady_paperHost (lib : Path) (files : Path → Except IoError Text) (answer : Text → Text) :
    (paperHost files answer).Steady
      (fun i _ => i.timeout = none ∧ ∃ p, i.executable.value = some (some p)) Paper.shown
      ⟨lib, files, fun script => .ok (answer script)⟩ where
  readText path i s hkept := ⟨files path, [], i, s, rfl, hkept, (List.append_nil _).symm, rfl, rfl⟩
  print text i s hkept := ⟨(), text, i, { s with shown := s.shown ++ text }, rfl, hkept, rfl, rfl⟩
  runScript script i s hkept := by
    obtain ⟨program, origin, ⟨value, supplier⟩, timeout⟩ := i
    obtain ⟨rfl, p, rfl⟩ := hkept
    refine ⟨_, [], ⟨program, origin, ⟨some (some p), supplier⟩, none⟩, { s with script := script },
      rfl, ⟨rfl, p, rfl⟩, (List.append_nil _).symm, ?_⟩
    exact congrArg Except.ok (Text.decodeLenient_encode (answer script))

/-- The arguments on a command line. -/
def arguments (words : List String) : List Bytes := words.map fun word => Text.encode word.toList

/-- Of two sections one fails.  The other one is listed twice, and in spec style it counts twice. -/
theorem one_verdict_repeated :
    let file : Path := .ofText "/w/docmark.toml".toList
    let document : Path := .ofText "/w/a.rdoc".toList
    let files : Path → Except IoError Text := fun path =>
      if path = file then
        .ok "[[documents]]\npath = \"a.rdoc\"\nsections = [\"S\", \"T\", \"S\"]\n".toList
      else if path = document then .ok "= S\n\n  p 1 # => 1\n\n= T\n\n  p 2 # => 2\n".toList
      else .error .notFound
    let h := paperHost files fun _ => "1\n".toList
    let w : Bench Id := ⟨.ofText "/w/lib".toList, files, fun _ => .ok "1\n".toList⟩
    let words := ["--no-color", "--ruby", "/r", "--config", "/w/docmark.toml"]
    let spec := arguments (words ++ ["check", "--style", "spec"])
    let unit := arguments (words ++ ["check", "--style", "unit"])
    let test := arguments (words ++ ["test", "/w/a.rdoc", "S"])
    (∃ c i s, Opens h ⟨true, some (.ofText "/r".toList), none, none, some file⟩
        ⟨[], []⟩ c i w.lib s ∧
      i.timeout = none ∧ ∃ p, i.executable.value = some (some p)) ∧
    (∃ cs, cs.length = 3 ∧ Ends h Paper.shown spec ⟨[], []⟩ ⟨[], []⟩ false w cs 1) ∧
    (∃ cs, cs.length = 2 ∧ Ends h Paper.shown unit ⟨[], []⟩ ⟨[], []⟩ false w cs 1) ∧
    ∃ cs, cs.length = 1 ∧ Ends h Paper.shown test ⟨[], []⟩ ⟨[], []⟩ false w cs 0 := by
  intro file document files h w words spec unit test
  let o : Options := ⟨true, some (.ofText "/r".toList), none, none, some file⟩
  let c : Config := ⟨none, .spec, none, none,
    [⟨document, ["S".toList, "T".toList, "S".toList]⟩]⟩
  have hload : ((Config.load h o.config).run ⟨[], []⟩).run = (.ok c, ⟨[], []⟩) := by decide +kernel
  obtain ⟨i, hharness, hkept⟩ : ∃ i, (harness h o c).run ⟨[], []⟩ = ((i, w.lib), ⟨[], []⟩) ∧
      i.timeout = none ∧ ∃ p, i.executable.value = some (some p) := ⟨_, rfl, rfl, _, rfl⟩
  have hopens : Opens h o ⟨[], []⟩ c i w.lib ⟨[], []⟩ := ⟨_, hload, hharness⟩
  obtain ⟨-, hdocument, hcheck⟩ :=
    one_verdict (steady_paperHost w.lib files fun _ => "1\n".toList) hopens hkept
  obtain ⟨-, -, -, -, -, -, htest⟩ := hdocument document ["S".toList]
  obtain ⟨-, -, -, hspec⟩ := hcheck (some .spec)
  obtain ⟨-, -, -, hunit⟩ := hcheck (some .unit)
  have hsome : c.documents ≠ [] := List.cons_ne_nil _ _
  have hcode : w.verdict (((Style.cases .spec c.documents)).map TitledCase.case) = 1 ∧
      w.verdict (((Style.cases .unit c.documents)).map TitledCase.case) = 1 ∧
      w.verdict (SectionCase.ofSections document ["S".toList]) = 0 := by decide +kernel
  have hends := (hspec spec (by decide +kernel)).2 hsome
  have hends' := (hunit unit (by decide +kernel)).2 hsome
  have hends'' := htest test (by decide +kernel)
  rw [hcode.2.2] at hends''
  refine ⟨⟨c, i, _, hopens, hkept⟩, ⟨_, ?_, hcode.1 ▸ hends⟩, ⟨_, ?_, hcode.2.1 ▸ hends'⟩,
    ⟨_, ?_, hends''⟩⟩
  · decide +kernel
  · decide +kernel
  · decide +kernel

/-- Two documents that are shown alike, in a directory whose name encodes no text.  The second one
is not there, and its section has no test. -/
theorem shown_alike_without_test :
    let directory : Path := Path.ofText "/tmp/".toList ++ [0xff]
    let file := directory.join (Path.ofText "docmark.toml".toList)
    let files : Path → Except IoError Text := fun path =>
      if path = file then
        .ok ("[[documents]]\npath = \"a.rdoc\"\nsections = [\"S\"]\n\n" ++
          "[[documents]]\npath = \"/tmp/�/a.rdoc\"\nsections = [\"S\"]\n").toList
      else if path = directory.join (Path.ofText "a.rdoc".toList) then .ok "= S\n".toList
      else .error .notFound
    let h := paperHost files fun _ => []
    let words : List Bytes := [Text.encode "--config".toList, file] ++
      arguments ["check", "--style"]
    ((run h (words ++ arguments ["spec"])).run ⟨[], []⟩).1 = 1 ∧
      ((run h (words ++ arguments ["unit"])).run ⟨[], []⟩).1 = 0 := by
  decide +kernel

end Program
end Doctest
