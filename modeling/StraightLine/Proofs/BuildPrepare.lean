import StraightLine.Proofs.BuildCourse

/-! A build in two halves: what comes before there is a scratch directory, and the work in it. The
first half takes its steps one after another, and each finds out something for those after it. -/

namespace StraightLine

variable {σ : Type}

section Halves

variable {m : Type → Type} [Monad m] [Host m]

/-- The first half of a build: all up to the scratch directory. -/
def prepare (request : Request) : ExceptT BuildError m Findings := do
  let directory ← attempt (.io request.directory) (Host.canonical request.directory)
  let sourcePath := Path.join directory projectFile
  let text ← attempt (.io sourcePath) (Host.readText sourcePath)
  Host.report (m := m) (.compiling sourcePath)
  let code ← compileStep request.options text
  let tools ← attempt .toolNotFound request.overrides.resolve.run
  let parent ← Host.scratchParent (m := m)
  let scratch ← attempt (.io parent) Host.makeScratch
  return ⟨directory, text, code, tools, scratch⟩

/-- The second half: the work in the scratch directory, and its removal. -/
def finish (request : Request) (findings : Findings) : ExceptT BuildError m Artifacts := do
  let executable := findings.executable request
  match ← ExceptT.lift (assemble findings.tools findings.code findings.scratch executable).run with
  | .error error =>
      Host.removeScratch (m := m) findings.scratch
      throw error
  | .ok () =>
      Host.report (m := m) (.built executable)
      if request.keepScratch then
        return ⟨executable, some findings.scratch⟩
      else
        Host.removeScratch (m := m) findings.scratch
        return ⟨executable, none⟩

theorem build_eq_prepare_finish [LawfulMonad m] (request : Request) :
    (build request : ExceptT BuildError m Artifacts) = prepare request >>= finish request := by
  simp only [build, prepare, bind_assoc, pure_bind]
  rfl

end Halves

variable [Host (StateM σ)]

/-- Work that takes some steps, of which the first has begun: it ends with the first failure, or with
all that the steps found out and a scratch directory just made. -/
inductive Pursues (request : Request) (known : Findings → Prop) (begun : List Said)
    (steps : List BuildStep) (action : ExceptT BuildError (Recorded σ) Findings) (before : σ) : Prop
  | failed (findings : Findings) (error : BuildError) (log : List (Exchange σ)) (after : σ)
      (hknown : known findings) (hmakes : Makes action.run before log (.error error) after)
      (hcourse : Course (BuildStep.Took request findings) steps (begun ++ asked log) (some error))
  | done (findings : Findings) (log : List (Exchange σ)) (after : σ) (hknown : known findings)
      (hmakes : Makes action.run before log (.ok findings) after)
      (hcourse : Course (BuildStep.Took request findings) steps (begun ++ asked log) none)
      (hmade : ∃ state, Ask.makeScratch.reply state = (.ok findings.scratch, after))

namespace Pursues

variable {request : Request} {known : Findings → Prop} {begun : List Said}
  {steps more : List BuildStep} {α : Type} {before middle : σ} {log : List (Exchange σ)}

/-- A request that cannot fail belongs to the step that has begun. -/
theorem lift {first : Recorded σ α} {next : α → ExceptT BuildError (Recorded σ) Findings} {value : α}
    (hfirst : Makes first before log value middle)
    (hnext : Pursues request known (begun ++ asked log) steps (next value) middle) :
    Pursues request known begun steps
      ((liftM first : ExceptT BuildError (Recorded σ) α) >>= next) before := by
  cases hnext with
  | failed findings error rest after hknown hmakes hcourse =>
      refine .failed findings error (log ++ rest) after hknown (hfirst.lift.bind_ok hmakes) ?_
      rwa [asked_append, ← List.append_assoc]
  | done findings rest after hknown hmakes hcourse hmade =>
      refine .done findings (log ++ rest) after hknown (hfirst.lift.bind_ok hmakes) ?_ hmade
      rwa [asked_append, ← List.append_assoc]

/-- Some steps that fail end the work, and the work goes on from them if they succeed. What they find
out is known from then on. -/
theorem course {first : ExceptT BuildError (Recorded σ) α}
    {next : α → ExceptT BuildError (Recorded σ) Findings} {result : Except BuildError α}
    (hfirst : Makes first.run before log result middle)
    (hstop : ∀ error, result = .error error → ∃ findings, known findings ∧
      Course (BuildStep.Took request findings) steps (begun ++ asked log) (some error))
    (hnext : ∀ value, result = .ok value → ∃ further : Findings → Prop,
      (∀ findings, further findings → known findings ∧
        Course (BuildStep.Took request findings) steps (begun ++ asked log) none) ∧
      Pursues request further [] more (next value) middle) :
    Pursues request known begun (steps ++ more) (first >>= next) before := by
  cases result with
  | error error =>
      obtain ⟨findings, hknown, hcourse⟩ := hstop error rfl
      exact .failed findings error log middle hknown hfirst.bind_error hcourse.append_stop
  | ok value =>
      obtain ⟨further, hfurther, hpursues⟩ := hnext value rfl
      cases hpursues with
      | failed findings error rest after hknown hmakes hcourse =>
          obtain ⟨hbefore, hsteps⟩ := hfurther findings hknown
          refine .failed findings error (log ++ rest) after hbefore (hfirst.bind_ok hmakes) ?_
          rw [asked_append, ← List.append_assoc]
          exact hsteps.append hcourse
      | done findings rest after hknown hmakes hcourse hmade =>
          obtain ⟨hbefore, hsteps⟩ := hfurther findings hknown
          refine .done findings (log ++ rest) after hbefore (hfirst.bind_ok hmakes) ?_ hmade
          rw [asked_append, ← List.append_assoc]
          exact hsteps.append hcourse

theorem step {step : BuildStep} {ε : Type} {wrap : ε → BuildError}
    {first : ExceptT BuildError (Recorded σ) α}
    {next : α → ExceptT BuildError (Recorded σ) Findings} {answer : Except ε α}
    (field : Findings → α) (hexists : ∃ findings, known findings)
    (hfirst : Makes first.run before log (answer.mapError wrap) middle)
    (htook : ∀ findings failure, known findings → Gives wrap (field findings) answer failure →
      BuildStep.Took request findings step (begun ++ asked log) failure)
    (hnext : ∀ value, answer = .ok value →
      Pursues request (fun findings => known findings ∧ field findings = value) [] more (next value)
        middle) :
    Pursues request known begun (step :: more) (first >>= next) before := by
  change Pursues request known begun ([step] ++ more) (first >>= next) before
  apply course hfirst
  · intro error herror
    cases answer with
    | ok value => cases herror
    | error cause =>
        obtain rfl : wrap cause = error := Except.error.inj herror
        obtain ⟨findings, hknown⟩ := hexists
        exact ⟨findings, hknown, .single (htook findings _ hknown (.failure cause))⟩
  · intro value hvalue
    cases answer with
    | error cause => cases hvalue
    | ok found =>
        obtain rfl : found = value := Except.ok.inj hvalue
        refine ⟨_, ?_, hnext found rfl⟩
        rintro findings ⟨hknown, rfl⟩
        exact ⟨hknown, .single (htook findings _ hknown .value)⟩

end Pursues

theorem pursues_prepare (request : Request) (start : σ) :
    Pursues request (fun _ => True) [] BuildStep.preparing (prepare request) start := by
  refine .step Findings.directory ⟨default, trivial⟩ (Makes.record (.canonical _) start).attempt ?_ ?_
  · intro findings failure _ hgives
    exact ⟨_, rfl, hgives⟩
  intro directory _
  refine .step Findings.text ⟨{ (default : Findings) with directory }, trivial, rfl⟩
    (Makes.record (.readText _) _).attempt ?_ ?_
  · rintro findings failure ⟨-, rfl⟩ hgives
    exact ⟨_, rfl, hgives⟩
  intro text _
  refine .lift (Makes.record (.report _) _) ?_
  obtain ⟨log, after, hcompile, hasked⟩ := makes_compileStep request.options text
    ((Ask.report (.compiling (Path.join directory projectFile))).reply
      ((Ask.readText (Path.join directory projectFile)).reply
        ((Ask.canonical request.directory).reply start).2).2).2
  refine .step Findings.code ⟨{ (default : Findings) with directory, text }, ⟨trivial, rfl⟩, rfl⟩
    hcompile ?_ ?_
  · rintro findings failure ⟨-, rfl⟩ hgives
    rw [hasked]
    exact ⟨rfl, hgives⟩
  intro code _
  obtain ⟨found, answer, middle, tools, hresolve, htools, hcourse⟩ := makes_resolve request after
  change Pursues request _ [] ([.find .backend, .find .linker] ++ [.makeScratch]) _ after
  refine .course hresolve.attempt ?_ ?_
  · intro error herror
    refine ⟨{ (default : Findings) with directory, text, code, tools }, ⟨⟨⟨trivial, rfl⟩, rfl⟩, rfl⟩, ?_⟩
    have hstopped := hcourse { (default : Findings) with directory, text, code, tools } rfl
    rwa [herror] at hstopped
  intro chosen hchosen
  obtain rfl : chosen = tools := by
    cases answer with
    | error role => cases hchosen
    | ok other => exact htools _ (congrArg _ (Except.ok.inj hchosen))
  refine ⟨fun findings => (((True ∧ findings.directory = directory) ∧ findings.text = text) ∧
    findings.code = code) ∧ findings.tools = chosen, ?_, ?_⟩
  · rintro findings ⟨hknown, htool⟩
    have hpassed := hcourse findings htool
    rw [hchosen] at hpassed
    exact ⟨hknown, hpassed⟩
  refine .lift (Makes.record .scratchParent _) ?_
  refine .step Findings.scratch
    ⟨{ (default : Findings) with directory, text, code, tools := chosen },
      ⟨⟨⟨trivial, rfl⟩, rfl⟩, rfl⟩, rfl⟩ (Makes.record .makeScratch _).attempt ?_ ?_
  · intro findings failure _ hgives
    exact ⟨_, _, rfl, hgives⟩
  intro scratch hscratch
  refine .done ⟨directory, text, code, chosen, scratch⟩ [] _ ⟨⟨⟨⟨⟨trivial, rfl⟩, rfl⟩, rfl⟩, rfl⟩, rfl⟩
    (.pure _ _) .done ⟨_, Prod.ext hscratch rfl⟩

end StraightLine
