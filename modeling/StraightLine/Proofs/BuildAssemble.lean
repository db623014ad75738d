import StraightLine.Proofs.BuildPrepare

/-! The work in the scratch directory. The code is written, the programs are run one after the other,
and the directory is removed unless all went well and it is to be kept. What a directory and a file
are is taken from the machine, as a few laws. -/

namespace StraightLine

variable {σ : Type} [Host (StateM σ)]

/-- What directories and files are, as far as a build relies on it: a scratch directory is there once
it is made and gone once it is removed, and a file holds what was last written to it. Programs may do
anything. -/
structure Filing (present : σ → String → Prop) (holds : σ → String → String → Prop) : Prop where
  present_made : ∀ state path after, Ask.makeScratch.reply state = (.ok path, after) →
    present after path
  absent_removed : ∀ state path, ¬ present ((Ask.removeScratch path).reply state).2 path
  present_written : ∀ state path text scratch, present state scratch →
    present ((Ask.writeText path text).reply state).2 scratch
  present_reported : ∀ state event scratch, present state scratch →
    present ((Ask.report event).reply state).2 scratch
  holds_written : ∀ state path text after, (Ask.writeText path text).reply state = (.ok (), after) →
    holds after path text
  holds_reported : ∀ state event path text, holds state path text →
    holds ((Ask.report event).reply state).2 path text

/-- No program that was run took a directory away. -/
def Spares (present : σ → String → Prop) (scratch : String) (log : List (Exchange σ)) : Prop :=
  ∀ exchange ∈ log, ∀ program args directory, exchange.ask = .runProgram program args directory →
    present exchange.before scratch → present (exchange.ask.reply exchange.before).2 scratch

section Assembling

variable {present : σ → String → Prop} {holds : σ → String → String → Prop}

/-- The exchanges of a run of a program: it is reported, then made. -/
def runLog (tool : Tool) (args : List String) (directory : String) (state : σ) : List (Exchange σ) :=
  let running := Ask.report (.running tool.program tool.origin.describe)
  let program := Ask.runProgram tool.program args directory
  let started := (running.reply state).2
  [⟨state, running, (running.reply state).1⟩, ⟨started, program, (program.reply started).1⟩]

def afterRun (tool : Tool) (args : List String) (directory : String) (state : σ) :
    Except OsError Finished × σ :=
  (Ask.runProgram tool.program args directory).reply
    ((Ask.report (.running tool.program tool.origin.describe)).reply state).2

theorem makes_runTool (tool : Tool) (args : List String) (directory : String) (state : σ) :
    Makes (runTool (m := Recorded σ) tool args directory).run state
      (runLog tool args directory state)
      ((runFailure tool args (afterRun tool args directory state).1).elim (.ok ()) .error)
      (afterRun tool args directory state).2 := by
  apply (Makes.record (.report _) state).lift.bind_ok
  have hruns : Makes (attempt (.toolSpawn tool.program)
      (Host.runProgram (m := Recorded σ) tool.program args directory)).run _ _
      ((afterRun tool args directory state).1.mapError (.toolSpawn tool.program)) _ :=
    (Makes.record (.runProgram tool.program args directory) _).attempt
  cases hanswer : (afterRun tool args directory state).1 with
  | error error =>
      rw [hanswer] at hruns
      exact hruns.bind_error
  | ok finished =>
      rw [hanswer] at hruns
      rw [← List.append_nil [_]]
      apply hruns.bind_ok
      simp only [runFailure]
      split
      · exact .pure _ _
      · exact .pure _ _

theorem failureOf_elim {ε : Type} (failure : Option ε) :
    failureOf (failure.elim (.ok ()) .error : Except ε Unit) = failure := by
  cases failure <;> rfl

theorem took_run (request : Request) (findings : Findings) (role : Role) (state : σ) :
    BuildStep.Took request findings (.run role)
      (asked (runLog (findings.tools.tool role) (findings.args request role) findings.scratch state))
      (runFailure (findings.tools.tool role) (findings.args request role)
        (afterRun (findings.tools.tool role) (findings.args request role) findings.scratch state).1) :=
  ⟨_, rfl, rfl⟩

theorem Spares.mono {scratch : String} {log more : List (Exchange σ)} (h : Spares present scratch more)
    (hsub : log ⊆ more) : Spares present scratch log :=
  fun exchange hexchange => h exchange (hsub hexchange)

theorem Filing.present_run (filing : Filing present holds) {tool : Tool} {args : List String}
    {directory scratch : String} {state : σ}
    (hspares : Spares present scratch (runLog tool args directory state))
    (hpresent : present state scratch) : present (afterRun tool args directory state).2 scratch :=
  hspares _ (List.mem_cons_of_mem _ List.mem_cons_self) _ _ _ rfl
    (filing.present_reported state _ scratch hpresent)

/-- What some work in the scratch directory amounts to: its steps are taken in order, the backend
finds the code in its file, and only a program can make the directory disappear. -/
structure Assembles (present : σ → String → Prop) (holds : σ → String → String → Prop)
    (request : Request) (findings : Findings) (steps : List BuildStep) (before : σ)
    (log : List (Exchange σ)) (result : Except BuildError Unit) (after : σ) : Prop where
  course : Course (BuildStep.Took request findings) steps (asked log) (failureOf result)
  code : ∀ exchange ∈ log, exchange.ask = findings.running request .backend →
    holds exchange.before findings.codePath findings.code
  present : Spares present findings.scratch log → present before findings.scratch →
    present after findings.scratch

/-- The backend is run where its file holds the code, and the linker only after it. -/
theorem makes_runs (filing : Filing present holds) (request : Request) (findings : Findings)
    (ready : σ) (hholds : holds ready findings.codePath findings.code) :
    ∃ log result after,
      Makes (runTool (m := Recorded σ) findings.tools.backend (findings.args request .backend)
          findings.scratch >>= fun _ =>
        runTool (m := Recorded σ) findings.tools.linker (findings.args request .linker)
          findings.scratch).run ready log result after ∧
      Assembles present holds request findings [.run .backend, .run .linker] ready log result
        after := by
  have hbackend := makes_runTool findings.tools.backend (findings.args request .backend)
    findings.scratch ready
  have htook := took_run request findings .backend ready
  have hcode : ∀ exchange ∈ runLog findings.tools.backend (findings.args request .backend)
      findings.scratch ready, exchange.ask = findings.running request .backend →
      holds exchange.before findings.codePath findings.code := by
    intro exchange hexchange hask
    rcases List.mem_cons.mp hexchange with rfl | hexchange
    · cases hask
    · rw [List.mem_singleton.mp hexchange]
      exact filing.holds_reported ready _ _ _ hholds
  cases hfailure : runFailure findings.tools.backend (findings.args request .backend)
      (afterRun findings.tools.backend (findings.args request .backend) findings.scratch ready).1 with
  | some error =>
      rw [hfailure] at hbackend
      refine ⟨_, _, _, hbackend.bind_error, .stop ?_, hcode, filing.present_run⟩
      rw [← hfailure]
      exact htook
  | none =>
      rw [hfailure] at hbackend
      have hlinker := makes_runTool findings.tools.linker (findings.args request .linker)
        findings.scratch
        (afterRun findings.tools.backend (findings.args request .backend) findings.scratch ready).2
      refine ⟨_, _, _, hbackend.bind_ok hlinker, ?_, ?_, ?_⟩
      · rw [asked_append, failureOf_elim]
        refine .next ?_ (.single (took_run request findings .linker _))
        rw [← hfailure]
        exact htook
      · intro exchange hexchange hask
        rcases List.mem_append.mp hexchange with hexchange | hexchange
        · exact hcode exchange hexchange hask
        -- The linker's request is another one.
        rcases List.mem_cons.mp hexchange with rfl | hexchange
        · cases hask
        · rw [List.mem_singleton.mp hexchange] at hask
          have hrole := Findings.running_eq_linker (hask.symm : findings.running request .backend = _)
          cases hrole
      · intro hspares hpresent
        apply filing.present_run (hspares.mono (List.subset_append_right _ _))
        exact filing.present_run (hspares.mono (List.subset_append_left _ _)) hpresent

theorem makes_assemble (filing : Filing present holds) (request : Request) (findings : Findings)
    (before : σ) :
    ∃ log result after,
      Makes (assemble (m := Recorded σ) findings.tools findings.code findings.scratch
        (findings.executable request)).run before log result after ∧
      Assembles present holds request findings BuildStep.assembling before log result after := by
  let write := Ask.writeText findings.codePath findings.code
  let wrote := Ask.report (.wrote findings.codePath findings.code.utf8ByteSize)
  let written := (write.reply before).2
  have hkept : present before findings.scratch → present written findings.scratch :=
    filing.present_written before _ _ _
  have hwrites : Makes (attempt (.io findings.codePath)
      (Host.writeText (m := Recorded σ) findings.codePath findings.code)).run before _
      ((write.reply before).1.mapError (.io findings.codePath)) written :=
    (Makes.record write before).attempt
  cases hanswer : (write.reply before).1 with
  | error error =>
      rw [hanswer] at hwrites
      refine ⟨_, _, _, hwrites.bind_error, .stop ⟨_, rfl, .failure error⟩, ?_, fun _ => hkept⟩
      intro exchange hexchange hask
      rw [List.mem_singleton.mp hexchange] at hask
      cases hask
  | ok _ =>
      rw [hanswer] at hwrites
      have hholds : holds (wrote.reply written).2 findings.codePath findings.code :=
        filing.holds_reported written _ _ _
          (filing.holds_written before _ _ written (Prod.ext hanswer rfl))
      obtain ⟨log, result, after, hruns, hassembles⟩ := makes_runs filing request findings _ hholds
      refine ⟨_, result, after, hwrites.bind_ok ((Makes.record wrote written).lift.bind_ok hruns),
        ?_, ?_, ?_⟩
      · rw [asked_append, asked_append]
        exact .next ⟨_, rfl, .value⟩ hassembles.course
      · intro exchange hexchange hask
        rcases List.mem_cons.mp hexchange with rfl | hexchange
        · cases hask
        rcases List.mem_cons.mp hexchange with rfl | hexchange
        · cases hask
        · exact hassembles.code exchange hexchange hask
      · intro hspares hpresent
        apply hassembles.present (hspares.mono ?_) (filing.present_reported written _ _ (hkept hpresent))
        intro exchange hexchange
        exact List.mem_cons_of_mem _ (List.mem_cons_of_mem _ hexchange)

theorem makes_removing (result : Except BuildError Artifacts) (scratch : String) (state : σ) :
    Makes ((liftM (Host.removeScratch (m := Recorded σ) scratch) :
        ExceptT BuildError (Recorded σ) Unit) >>= fun _ => ExceptT.mk (pure result)).run state
      [⟨state, .removeScratch scratch, ()⟩] result ((Ask.removeScratch scratch).reply state).2 :=
  (Makes.record (.removeScratch scratch) state).lift.bind_ok (.pure result _)

/-- What the second half of a build amounts to, `log` being its steps and `rest` what comes after. -/
structure Finishes (present : σ → String → Prop) (holds : σ → String → String → Prop)
    (request : Request) (findings : Findings) (log rest : List (Exchange σ))
    (failure : Option BuildError) (final : σ) : Prop where
  course : Course (BuildStep.Took request findings) BuildStep.assembling (asked log) failure
  cleanup : ∀ taken : List Said, ⟨.makeScratch, .ok findings.scratch⟩ ∈ taken →
    Cleanup request findings.scratch taken failure (asked rest)
  code : ∀ exchange ∈ log ++ rest, exchange.ask = findings.running request .backend →
    holds exchange.before findings.codePath findings.code
  gone : present final findings.scratch → failure = none ∧ request.keepScratch = true
  kept : Spares present findings.scratch (log ++ rest) → failure = none →
    request.keepScratch = true → present final findings.scratch

theorem makes_finish (filing : Filing present holds) (request : Request) (findings : Findings)
    (before : σ) (hpresent : present before findings.scratch) :
    ∃ log rest failure final,
      Makes (finish (m := Recorded σ) request findings).run before (log ++ rest)
        (findings.result request failure) final ∧
      Finishes present holds request findings log rest failure final := by
  obtain ⟨log, result, after, hmakes, hassembles⟩ := makes_assemble filing request findings before
  -- Nothing after the steps runs a program, so the code was there whenever the backend ran.
  have hcode {rest : List (Exchange σ)}
      (hrest : ∀ exchange ∈ rest, exchange.ask ≠ findings.running request .backend) :
      ∀ exchange ∈ log ++ rest, exchange.ask = findings.running request .backend →
        holds exchange.before findings.codePath findings.code := by
    intro exchange hexchange hask
    rcases List.mem_append.mp hexchange with hexchange | hexchange
    · exact hassembles.code exchange hexchange hask
    · exact absurd hask (hrest exchange hexchange)
  cases result with
  | error error =>
      refine ⟨log, _, some error, _,
        hmakes.lift.bind_ok (makes_removing (.error error) findings.scratch after),
        hassembles.course, fun taken hmade => .failed error hmade, hcode ?_, ?_, nofun⟩
      · intro exchange hexchange
        rw [List.mem_singleton.mp hexchange]
        nofun
      · exact fun hstays => absurd hstays (filing.absent_removed after _)
  | ok _ =>
      let built := Ask.report (.built (findings.executable request))
      let told := (built.reply after).2
      have hreports := Makes.record built after
      by_cases hkeep : request.keepScratch = true
      · refine ⟨log, [⟨after, built, ()⟩], none, told, hmakes.lift.bind_ok ?_,
          hassembles.course, fun taken hmade => .kept hmade hkeep, hcode ?_, fun _ => ⟨rfl, hkeep⟩, ?_⟩
        · apply hreports.lift.bind_ok
          simp only [Findings.result, if_pos hkeep]
          exact .pure _ _
        · intro exchange hexchange
          rw [List.mem_singleton.mp hexchange]
          nofun
        · intro hspares _ _
          apply filing.present_reported
          exact hassembles.present (hspares.mono (List.subset_append_left _ _)) hpresent
      · refine ⟨log, [⟨after, built, ()⟩, ⟨told, .removeScratch findings.scratch, ()⟩], none,
          ((Ask.removeScratch findings.scratch).reply told).2, hmakes.lift.bind_ok ?_,
          hassembles.course, fun taken hmade => .dropped hmade (by simpa using hkeep), hcode ?_, ?_,
          fun _ _ h => absurd h hkeep⟩
        · apply hreports.lift.bind_ok
          simp only [Findings.result, if_neg hkeep]
          exact makes_removing (.ok _) findings.scratch told
        · intro exchange hexchange
          rcases List.mem_cons.mp hexchange with rfl | hexchange
          · nofun
          · rw [List.mem_singleton.mp hexchange]
            nofun
        · exact fun hstays => absurd hstays (filing.absent_removed _ _)

end Assembling

end StraightLine
