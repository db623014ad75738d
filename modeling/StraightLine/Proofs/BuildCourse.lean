import StraightLine.Build.Steps
import StraightLine.Proofs.BuildRecord

/-! A build takes its steps in order and stops at the first that fails. Each part of the build is
matched with the steps it takes; what holds of one step and of the steps before it then holds of
every request in the record. -/

namespace StraightLine

namespace Course

variable {took : BuildStep → List Said → Option BuildError → Prop} {steps more : List BuildStep}
  {said : List Said} {failure : Option BuildError}

theorem single {step : BuildStep} (h : took step said failure) : Course took [step] said failure := by
  cases failure with
  | none =>
      rw [← List.append_nil said]
      exact .next h .done
  | some error => exact .stop h

theorem append {rest : List Said} (h : Course took steps said none)
    (hmore : Course took more rest failure) : Course took (steps ++ more) (said ++ rest) failure := by
  generalize hnone : (none : Option BuildError) = passed at h
  induction h with
  | done => exact hmore
  | stop _ => cases hnone
  | next hstep _ ih =>
      rw [List.append_assoc]
      exact .next hstep (ih hnone)

theorem append_stop {error : BuildError} (h : Course took steps said (some error)) :
    Course took (steps ++ more) said (some error) := by
  generalize hsome : some error = stopped at h
  induction h with
  | done => cases hsome
  | stop hstep => exact .stop hstep
  | next hstep _ ih => exact .next hstep (ih hsome)

/-- Whatever is said is said in some step. The steps before it succeeded, and what they said was said
before; if it succeeded too, the course goes on. -/
theorem split {before after : List Said} {one : Said}
    (h : Course took steps (before ++ one :: after) failure) :
    ∃ earlier step later own verdict, steps = earlier ++ step :: later ∧ one ∈ own ∧
      took step own verdict ∧ (∀ past ∈ earlier, ∃ told, took past told none ∧ told ⊆ before) ∧
      (verdict = none → ∃ rest, Course took later rest failure) := by
  generalize hall : before ++ one :: after = all at h
  induction h generalizing before with
  | done => simp at hall
  | @stop step rest own error hstep =>
      refine ⟨[], step, rest, own, some error, rfl, ?_, hstep, by simp, nofun⟩
      rw [← hall]
      simp
  | @next step rest own others failure hstep hrest ih =>
      rcases List.append_eq_append_iff.mp hall with ⟨middle, hown, hothers⟩ | ⟨middle, hbefore, hothers⟩
      · cases middle with
        | nil =>
            -- The step before `one` ends exactly where it is said.
            obtain ⟨earlier, last, later, mine, verdict, hsteps, hmine, htook, hpast, hgoes⟩ :=
              ih (show [] ++ one :: after = others from hothers)
            refine ⟨step :: earlier, last, later, mine, verdict, by rw [hsteps]; rfl, hmine, htook,
              ?_, hgoes⟩
            intro past hmem
            rcases List.mem_cons.mp hmem with rfl | hmem
            · exact ⟨own, hstep, by rw [hown]; simp⟩
            · obtain ⟨told, htold, hsub⟩ := hpast past hmem
              exact ⟨told, htold, fun _ hin => absurd (hsub hin) (by simp)⟩
        | cons first middle =>
            obtain ⟨rfl, -⟩ := List.cons.inj hothers
            refine ⟨[], step, rest, own, none, rfl, ?_, hstep, by simp, fun _ => ⟨others, hrest⟩⟩
            rw [hown]
            simp
      · obtain ⟨earlier, last, later, mine, verdict, hsteps, hmine, htook, hpast, hgoes⟩ :=
          ih hothers.symm
        refine ⟨step :: earlier, last, later, mine, verdict, by rw [hsteps]; rfl, hmine, htook, ?_,
          hgoes⟩
        intro past hmem
        rcases List.mem_cons.mp hmem with rfl | hmem
        · exact ⟨own, hstep, by rw [hbefore]; simp⟩
        · obtain ⟨told, htold, hsub⟩ := hpast past hmem
          refine ⟨told, htold, fun _ hin => ?_⟩
          rw [hbefore]
          exact List.mem_append_right _ (hsub hin)

/-- In a course without failure every step is taken. -/
theorem taken {step : BuildStep} (h : Course took steps said none) (hstep : step ∈ steps) :
    ∃ own, took step own none ∧ own ⊆ said := by
  generalize hnone : (none : Option BuildError) = passed at h
  induction h with
  | done => cases hstep
  | stop _ => cases hnone
  | @next first rest own others passed hfirst _ ih =>
      subst hnone
      rcases List.mem_cons.mp hstep with rfl | hstep
      · exact ⟨own, hfirst, List.subset_append_left _ _⟩
      · obtain ⟨mine, htook, hsub⟩ := ih hstep rfl
        exact ⟨mine, htook, fun _ hin => List.mem_append_right _ (hsub hin)⟩

end Course

section Asking

variable {request : Request} {findings : Findings} {step : BuildStep} {own : List Said}
  {verdict : Option BuildError}

/-- All that a step may ask of the machine. -/
def BuildStep.asks (request : Request) (findings : Findings) : BuildStep → List Ask
  | .canonicalize => [.canonical request.directory]
  | .read => [.readText findings.sourcePath]
  | .compile => []
  | .find role => [.getEnv role.envName, .findProgram role.command]
  | .makeScratch => [.scratchParent, .makeScratch]
  | .write => [.writeText findings.codePath findings.code]
  | .run role => [findings.running request role]

theorem Finds.mem_asks {role : Role} {override : Option String} {found : Option Tool} {one : Said}
    (h : Finds role override own found) (hone : one ∈ own) :
    one.1 ∈ (BuildStep.find role).asks request findings := by
  cases h with
  | chosen program => cases hone
  | environment value hvalue =>
      rw [List.mem_singleton.mp hone]
      exact List.mem_cons_self
  | usual setting found hsetting =>
      rcases List.mem_cons.mp hone with rfl | hone
      · exact List.mem_cons_self
      · rw [List.mem_singleton.mp hone]
        exact List.mem_cons_of_mem _ List.mem_cons_self

theorem BuildStep.Took.mem_asks {one : Said} (h : BuildStep.Took request findings step own verdict)
    (hone : one ∈ own) : one.1 ∈ step.asks request findings := by
  cases step with
  | canonicalize | read | write | run _ =>
      obtain ⟨answer, rfl, -⟩ := h
      rw [List.mem_singleton.mp hone]
      exact List.mem_cons_self
  | compile =>
      obtain ⟨rfl, -⟩ := h
      cases hone
  | find role =>
      obtain ⟨found, hfinds, -⟩ := h
      exact hfinds.mem_asks hone
  | makeScratch =>
      obtain ⟨parent, answer, rfl, -⟩ := h
      rcases List.mem_cons.mp hone with rfl | hone
      · exact List.mem_cons_self
      · rw [List.mem_singleton.mp hone]
        exact List.mem_cons_of_mem _ List.mem_cons_self

/-- A scratch directory comes of its own step, which then has succeeded. -/
theorem BuildStep.Took.made {path : String} (h : BuildStep.Took request findings step own verdict)
    (hmade : ⟨.makeScratch, .ok path⟩ ∈ own) :
    step = .makeScratch ∧ verdict = none ∧ path = findings.scratch := by
  have hasks := h.mem_asks hmade
  cases step with
  | makeScratch =>
      obtain ⟨parent, answer, rfl, hgives⟩ := h
      rcases List.mem_cons.mp hmade with heq | hmem
      · cases heq
      · cases List.mem_singleton.mp hmem
        cases hgives
        exact ⟨rfl, rfl, rfl⟩
  | _ => simp [BuildStep.asks, Findings.running] at hasks

theorem BuildStep.Took.made_of_none
    (h : BuildStep.Took request findings .makeScratch own none) :
    ⟨.makeScratch, .ok findings.scratch⟩ ∈ own := by
  obtain ⟨parent, answer, rfl, hgives⟩ := h
  cases hgives
  exact List.mem_cons_of_mem _ List.mem_cons_self

/-- The steps before a step are those before its only place. -/
theorem BuildStep.earlier_eq {steps earlier later : List BuildStep} (hnodup : steps.Nodup)
    (h : steps = earlier ++ step :: later) :
    earlier = steps.takeWhile (fun other => decide (other ≠ step)) := by
  rw [h] at hnodup
  have hfresh : ∀ other ∈ earlier, decide (other ≠ step) = true := by
    intro other hother
    have hne := (List.nodup_append.mp hnodup).2.2 other hother step List.mem_cons_self
    exact decide_eq_true hne
  rw [h, List.takeWhile_append_of_pos hfresh]
  simp

/-- A text has been compiled before anything is asked for but the project and the text. -/
theorem Course.compiled {said : List Said} {failure : Option BuildError} {one : Said}
    (h : Course (BuildStep.Took request findings) BuildStep.all said failure) (hone : one ∈ said)
    (hcanonical : ∀ path, one.1 ≠ .canonical path) (hread : ∀ path, one.1 ≠ .readText path) :
    (compile request.options findings.text).outcome = .ok findings.code := by
  obtain ⟨before, after, rfl⟩ := List.append_of_mem hone
  obtain ⟨earlier, step, later, own, verdict, hall, hown, htook, hpast, -⟩ := h.split
  have hasks := htook.mem_asks hown
  have hcompile : BuildStep.compile ∈ earlier := by
    rw [BuildStep.earlier_eq (by decide) hall]
    cases step with
    | canonicalize => exact absurd (List.mem_singleton.mp hasks) (hcanonical _)
    | read => exact absurd (List.mem_singleton.mp hasks) (hread _)
    | compile => cases hasks
    | makeScratch | write => decide
    | find role | run role => cases role <;> decide
  obtain ⟨told, ⟨-, hgives⟩, -⟩ := hpast _ hcompile
  generalize hnone : (none : Option BuildError) = passed at hgives
  generalize houtcome : (compile request.options findings.text).outcome = outcome at hgives
  cases hgives with
  | value => rfl
  | failure error => cases hnone

theorem length_le_join (base path : String) : path.length ≤ (Path.join base path).length := by
  unfold Path.join
  split
  · exact Nat.le_refl _
  · split <;> simp only [String.length_append] <;> omega

/-- The two programs are never run on the same arguments: the backend's start with an option. -/
theorem Findings.args_backend_ne_linker (request : Request) (findings : Findings) :
    findings.args request .backend ≠ findings.args request .linker := by
  intro hargs
  have hpath : "-o" = findings.assemblyPath := (List.cons.inj hargs).1
  have hlong : assemblyFile.length ≤ findings.assemblyPath.length :=
    length_le_join findings.scratch assemblyFile
  rw [← hpath] at hlong
  exact absurd hlong (by decide)

theorem Findings.running_eq_linker {role : Role}
    (h : findings.running request role = findings.running request .linker) : role = .linker := by
  cases role with
  | linker => rfl
  | backend => exact absurd (Ask.runProgram.inj h).2.1 (findings.args_backend_ne_linker request)

/-- The linker is run only after the backend has been run and has succeeded. -/
theorem Course.backend_succeeded {before after : List Said} {failure : Option BuildError} {one : Said}
    (h : Course (BuildStep.Took request findings) BuildStep.all (before ++ one :: after) failure)
    (hone : one.1 = findings.running request .linker) :
    ∃ finished : Finished, ⟨findings.running request .backend, .ok finished⟩ ∈ before ∧
      finished.status.isSuccess = true := by
  obtain ⟨earlier, step, later, own, verdict, hall, hown, htook, hpast, -⟩ := h.split
  have hasks := htook.mem_asks hown
  rw [hone] at hasks
  have hstep : step = .run .linker := by
    cases step with
    | run role =>
        rw [Findings.running_eq_linker (List.mem_singleton.mp hasks).symm]
    | _ => simp [BuildStep.asks, Findings.running] at hasks
  have hbackend : BuildStep.run .backend ∈ earlier := by
    rw [BuildStep.earlier_eq (by decide) hall, hstep]
    decide
  obtain ⟨told, ⟨answer, rfl, hverdict⟩, hsub⟩ := hpast _ hbackend
  cases answer with
  | error error => cases hverdict
  | ok finished =>
      refine ⟨finished, hsub List.mem_cons_self, ?_⟩
      simp only [runFailure] at hverdict
      split at hverdict
      · assumption
      · cases hverdict

/-- No program is run before there is a scratch directory. -/
theorem ask_ne_running {σ : Type} {log : List (Exchange σ)} {failure : Option BuildError}
    (h : Course (BuildStep.Took request findings) BuildStep.preparing (asked log) failure)
    {exchange : Exchange σ} (hexchange : exchange ∈ log) (role : Role) :
    exchange.ask ≠ findings.running request role := by
  intro hask
  have hsaid := said_mem_asked hexchange (by rw [hask]; rfl)
  obtain ⟨before, after, hsplit⟩ := List.append_of_mem hsaid
  rw [hsplit] at h
  obtain ⟨earlier, step, later, own, verdict, hsteps, hown, htook, -, -⟩ := h.split
  have hasks : exchange.ask ∈ step.asks request findings := htook.mem_asks hown
  have hstep : step ∈ BuildStep.preparing := by
    rw [hsteps]
    simp
  rw [hask] at hasks
  cases step with
  | run role => cases role <;> exact absurd hstep (by decide)
  | _ => simp [BuildStep.asks, Findings.running] at hasks

end Asking

variable {σ : Type} [Host (StateM σ)]

/-- The error of a result, if it is one. -/
def failureOf {ε α : Type} : Except ε α → Option ε
  | .error error => some error
  | .ok _ => none

section Finding

theorem makes_lookup (role : Role) (state : σ) :
    Makes (role.lookup : Recorded σ (Option Tool)) state
      [⟨state, .findProgram role.command, ((Ask.findProgram role.command).reply state).1⟩]
      (((Ask.findProgram role.command).reply state).1.map (⟨·, .pathLookup⟩))
      ((Ask.findProgram role.command).reply state).2 :=
  (Makes.record (.findProgram role.command) state).map _

/-- A variable that is set settles the search unless it is blank. -/
theorem makes_setting (role : Role) (value : String) (state : σ) :
    ∃ log found after,
      Makes (if Text.isBlankText value then role.lookup
        else pure (some ⟨value, .environment role.envName⟩) : Recorded σ (Option Tool)) state log found
        after ∧
      Finds role none (⟨.getEnv role.envName, some value⟩ :: asked log) found := by
  cases hblank : Text.isBlankText value with
  | true =>
      refine ⟨_, _, _, makes_lookup role state, .usual (some value) _ ?_⟩
      intro other hother
      rw [← Option.some.inj hother]
      exact hblank
  | false => exact ⟨_, _, _, .pure _ state, .environment value hblank⟩

/-- The search for a program asks for the variable first, and for the usual program only if that
does not settle it. -/
theorem makes_resolveRole (role : Role) (override : Option String) (state : σ) :
    ∃ log found after, Makes (role.resolve override : Recorded σ (Option Tool)) state log found after ∧
      Finds role override (asked log) found := by
  cases override with
  | some program => exact ⟨[], _, state, .pure _ state, .chosen program⟩
  | none =>
      have hasks := Makes.record (.getEnv role.envName) state
      cases hsetting : ((Ask.getEnv role.envName).reply state).1 with
      | none =>
          rw [hsetting] at hasks
          exact ⟨_, _, _, hasks.bind (makes_lookup role _), .usual none _ nofun⟩
      | some value =>
          rw [hsetting] at hasks
          obtain ⟨log, found, after, hmakes, hfinds⟩ :=
            makes_setting role value ((Ask.getEnv role.envName).reply state).2
          exact ⟨_, found, after, hasks.bind hmakes, hfinds⟩

/-- The backend is looked for before the linker, and the linker only if there is a backend. -/
theorem makes_resolve (request : Request) (state : σ) :
    ∃ log answer after tools,
      Makes (request.overrides.resolve (m := Recorded σ)).run state log answer after ∧
      (∀ found, answer = .ok found → found = tools) ∧
      ∀ findings : Findings, findings.tools = tools →
        Course (BuildStep.Took request findings) [.find .backend, .find .linker] (asked log)
          (failureOf (answer.mapError BuildError.toolNotFound)) := by
  obtain ⟨log, backend, middle, hbackend, hfinds⟩ :=
    makes_resolveRole .backend request.overrides.backend state
  cases backend with
  | none =>
      refine ⟨log, .error .backend, middle, default, ?_, nofun, ?_⟩
      · rw [← List.append_nil log]
        exact hbackend.lift.bind_ok (.pure _ middle)
      · intro findings _
        exact .stop ⟨none, hfinds, .failure Role.backend⟩
  | some backend =>
      obtain ⟨more, linker, after, hlinker, hfindsLinker⟩ :=
        makes_resolveRole .linker request.overrides.linker middle
      cases linker with
      | none =>
          refine ⟨log ++ more, .error .linker, after, ⟨backend, default⟩, ?_, nofun, ?_⟩
          · rw [← List.append_nil more]
            exact hbackend.lift.bind_ok (hlinker.lift.bind_ok (.pure _ after))
          · rintro ⟨directory, text, code, _, scratch⟩ rfl
            rw [asked_append]
            exact .next ⟨some backend, hfinds, .value⟩
              (.stop ⟨none, hfindsLinker, .failure Role.linker⟩)
      | some linker =>
          refine ⟨log ++ more, .ok ⟨backend, linker⟩, after, ⟨backend, linker⟩, ?_, ?_, ?_⟩
          · rw [← List.append_nil more]
            exact hbackend.lift.bind_ok (hlinker.lift.bind_ok (.pure _ after))
          · intro found hfound
            exact (Except.ok.inj hfound).symm
          · rintro ⟨directory, text, code, _, scratch⟩ rfl
            rw [asked_append]
            exact .next ⟨some backend, hfinds, .value⟩
              (.single ⟨some linker, hfindsLinker, .value⟩)

end Finding

theorem makes_reports (events : List Event) (state : σ) :
    ∃ log after,
      Makes
        (events.forM fun event =>
          (liftM (Host.report (m := Recorded σ) event) : ExceptT BuildError (Recorded σ) Unit)).run
        state log (.ok ()) after ∧ asked log = [] := by
  induction events generalizing state with
  | nil => exact ⟨[], state, .pure _ state, rfl⟩
  | cons event events ih =>
      obtain ⟨log, after, hmakes, hasked⟩ := ih ((Ask.report event).reply state).2
      refine ⟨_, after, (Makes.record (.report event) state).lift.bind_ok hmakes, ?_⟩
      rw [asked_append, hasked]
      rfl

theorem makes_compileStep (options : Options) (text : String) (state : σ) :
    ∃ log after,
      Makes (compileStep (m := Recorded σ) options text).run state log
        ((compile options text).outcome.mapError BuildError.compile) after ∧ asked log = [] := by
  obtain ⟨log, after, hreports, hasked⟩ := makes_reports (compile options text).events state
  refine ⟨log ++ [], after, hreports.bind_ok (Makes.pure _ after).attempt, ?_⟩
  rw [List.append_nil, hasked]

end StraightLine
