import StraightLine.Proofs.BuildAssemble
import StraightLine.Proofs.Descent

/-! A build stops at the first step that fails, with that step's error, and leaves no scratch
directory behind unless it succeeds and is asked to keep it. The machine is any machine: it may answer
every request as it likes. -/

namespace StraightLine

variable {σ : Type} [Host (StateM σ)]

section Whole

variable {present : σ → String → Prop} {holds : σ → String → String → Prop} {request : Request}
  {findings : Findings}

/-- A course that failed on the way to the scratch directory has made none. -/
theorem not_made_of_failed {said : List Said} {error : BuildError}
    (h : Course (BuildStep.Took request findings) BuildStep.preparing said (some error))
    (path : String) : ⟨.makeScratch, .ok path⟩ ∉ said := by
  intro hmade
  obtain ⟨before, after, rfl⟩ := List.append_of_mem hmade
  obtain ⟨earlier, step, later, own, verdict, hsteps, hown, htook, -, hgoes⟩ := h.split
  obtain ⟨rfl, rfl, -⟩ := htook.made hown
  obtain ⟨rest, hrest⟩ := hgoes rfl
  -- The scratch directory is the last thing prepared, so nothing is left to fail.
  have hearlier := BuildStep.earlier_eq (by decide) hsteps
  rw [hearlier] at hsteps
  obtain ⟨-, rfl⟩ := List.cons.inj (List.append_cancel_left
    (show BuildStep.preparing.dropLast ++ [.makeScratch] = BuildStep.preparing.dropLast ++ _ from hsteps))
  cases hrest

theorem made_eq {said : List Said} {failure : Option BuildError} {steps : List BuildStep}
    (h : Course (BuildStep.Took request findings) steps said failure) {path : String}
    (hmade : ⟨.makeScratch, .ok path⟩ ∈ said) : path = findings.scratch := by
  obtain ⟨before, after, rfl⟩ := List.append_of_mem hmade
  obtain ⟨earlier, step, later, own, verdict, -, hown, htook, -, -⟩ := h.split
  exact (htook.made hown).2.2

theorem Cleanup.ask_eq {scratch : String} {taken cleanup : List Said} {failure : Option BuildError}
    {one : Said} (h : Cleanup request scratch taken failure cleanup) (hone : one ∈ cleanup) :
    one.1 = .removeScratch scratch ∧ ⟨.makeScratch, .ok scratch⟩ ∈ taken := by
  cases h with
  | unmade | kept => cases hone
  | failed _ hmade | dropped hmade =>
      rw [List.mem_singleton.mp hone]
      exact ⟨rfl, hmade⟩

/-- What is asked for is asked for in a step, removals apart. -/
theorem Cleanup.taken_eq {scratch : String} {taken cleanup before after : List Said}
    {failure : Option BuildError} {one : Said} (h : Cleanup request scratch taken failure cleanup)
    (hsaid : taken ++ cleanup = before ++ one :: after) (hask : one.1 ≠ .removeScratch scratch) :
    ∃ rest, taken = before ++ one :: rest := by
  have hnot : one ∉ cleanup := fun hone => hask (h.ask_eq hone).1
  rcases List.append_eq_append_iff.mp hsaid with ⟨middle, -, hcleanup⟩ | ⟨middle, htaken, hrest⟩
  · exact absurd (by rw [hcleanup]; simp) hnot
  · cases middle with
    | nil => exact absurd (by rw [← show one :: after = cleanup from hrest]; simp) hnot
    | cons first middle =>
        obtain ⟨rfl, -⟩ := List.cons.inj hrest
        exact ⟨middle, htaken⟩

theorem compiled_of_asked {taken cleanup : List Said} {failure : Option BuildError} {one : Said}
    (hcourse : Course (BuildStep.Took request findings) BuildStep.all taken failure)
    (hcleanup : Cleanup request findings.scratch taken failure cleanup)
    (hone : one ∈ taken ++ cleanup) (hcanonical : ∀ path, one.1 ≠ .canonical path)
    (hread : ∀ path, one.1 ≠ .readText path) :
    (compile request.options findings.text).outcome = .ok findings.code := by
  rcases List.mem_append.mp hone with hone | hone
  · exact hcourse.compiled hone hcanonical hread
  · exact hcourse.compiled (hcleanup.ask_eq hone).2 nofun nofun

/-- What a build leaves behind and how it got there. `log` is the record of its requests. -/
structure FailStop (present : σ → String → Prop) (holds : σ → String → String → Prop)
    (request : Request) (findings : Findings) (log : List (Exchange σ))
    (result : Except BuildError Artifacts) (final : σ) : Prop where
  /-- The steps are taken in order up to the first that fails, whose error is the result. -/
  in_order : ∃ taken cleanup failure, asked log = taken ++ cleanup ∧
    Course (BuildStep.Took request findings) BuildStep.all taken failure ∧
    Cleanup request findings.scratch taken failure cleanup ∧
    result = findings.result request failure
  /-- Before the text is compiled, nothing is asked for but the project and the text. -/
  compiled_first : ∀ one ∈ asked log, (∀ path, one.1 ≠ .canonical path) →
    (∀ path, one.1 ≠ .readText path) →
    (compile request.options findings.text).outcome = .ok findings.code
  /-- Before the linker is run, the backend has been run and has succeeded. -/
  backend_first : ∀ before one after, asked log = before ++ one :: after →
    one.1 = findings.running request .linker →
    ∃ finished : Finished, ⟨findings.running request .backend, .ok finished⟩ ∈ before ∧
      finished.status.isSuccess = true
  /-- When the backend is run, its file holds the code. -/
  code_written : ∀ exchange ∈ log, exchange.ask = findings.running request .backend →
    holds exchange.before findings.codePath findings.code
  /-- A scratch directory is left only by a build that succeeds and is to keep it, whatever the
  programs do. -/
  scratch_gone : ∀ scratch, ⟨.makeScratch, .ok scratch⟩ ∈ asked log → present final scratch →
    (∃ artifacts, result = .ok artifacts) ∧ request.keepScratch = true
  /-- Such a build does leave it, unless a program took it away. -/
  scratch_kept : ∀ scratch, ⟨.makeScratch, .ok scratch⟩ ∈ asked log → Spares present scratch log →
    (∃ artifacts, result = .ok artifacts) → request.keepScratch = true → present final scratch
  /-- It is named in the result. -/
  scratch_named : ∀ artifacts, result = .ok artifacts → request.keepScratch = true →
    ∃ scratch, artifacts.scratch = some scratch ∧ ⟨.makeScratch, .ok scratch⟩ ∈ asked log

/-- A build that fails before there is a scratch directory leaves none. -/
theorem failStop_of_failed {log : List (Exchange σ)} {error : BuildError} (final : σ)
    (hcourse : Course (BuildStep.Took request findings) BuildStep.preparing (asked log)
      (some error)) :
    FailStop present holds request findings log (.error error) final := by
  have hall : Course (BuildStep.Took request findings) BuildStep.all (asked log) (some error) :=
    hcourse.append_stop
  have hnone := not_made_of_failed hcourse
  have hcleanup : Cleanup request findings.scratch (asked log) (some error) [] := .unmade error hnone
  constructor
  case in_order => exact ⟨asked log, [], some error, by simp, hall, hcleanup, rfl⟩
  case compiled_first =>
    intro one hone hcanonical hread
    exact hall.compiled hone hcanonical hread
  case backend_first =>
    intro before one after hsaid hask
    rw [hsaid] at hall
    exact hall.backend_succeeded hask
  case code_written =>
    intro exchange hexchange hask
    exact absurd hask (ask_ne_running hcourse hexchange .backend)
  case scratch_gone => exact fun scratch hmade => absurd hmade (hnone scratch)
  case scratch_kept => exact fun scratch hmade => absurd hmade (hnone scratch)
  case scratch_named => exact nofun

/-- A build that has made its scratch directory keeps it only by succeeding. -/
theorem failStop_of_finished {prepared log rest : List (Exchange σ)} {failure : Option BuildError}
    {final : σ}
    (hcourse : Course (BuildStep.Took request findings) BuildStep.preparing (asked prepared) none)
    (hfinishes : Finishes present holds request findings log rest failure final) :
    FailStop present holds request findings (prepared ++ (log ++ rest))
      (findings.result request failure) final := by
  have hall : Course (BuildStep.Took request findings) BuildStep.all (asked prepared ++ asked log)
      failure := hcourse.append hfinishes.course
  have hmade : ⟨.makeScratch, .ok findings.scratch⟩ ∈ asked prepared := by
    obtain ⟨own, htook, hsub⟩ := hcourse.taken (by decide : BuildStep.makeScratch ∈ _)
    exact hsub htook.made_of_none
  have hcleanup := hfinishes.cleanup (asked prepared ++ asked log) (List.mem_append_left _ hmade)
  have hasked : asked (prepared ++ (log ++ rest)) = asked prepared ++ asked log ++ asked rest := by
    rw [asked_append, asked_append, List.append_assoc]
  -- Every scratch directory in the record is the one that was found.
  have honly {scratch : String}
      (h : ⟨.makeScratch, .ok scratch⟩ ∈ asked (prepared ++ (log ++ rest))) :
      scratch = findings.scratch := by
    rw [hasked] at h
    rcases List.mem_append.mp h with h | h
    · exact made_eq hall h
    · exact absurd (hcleanup.ask_eq h).1 nofun
  have hok {artifacts : Artifacts} (h : findings.result request failure = .ok artifacts) :
      failure = none := by
    cases failure with
    | none => rfl
    | some error => cases h
  constructor
  case in_order => exact ⟨_, _, failure, hasked, hall, hcleanup, rfl⟩
  case compiled_first =>
    intro one hone hcanonical hread
    rw [hasked] at hone
    exact compiled_of_asked hall hcleanup hone hcanonical hread
  case backend_first =>
    intro before one after hsaid hask
    obtain ⟨more, htaken⟩ := hcleanup.taken_eq (hasked.symm.trans hsaid) (by rw [hask]; nofun)
    rw [htaken] at hall
    exact hall.backend_succeeded hask
  case code_written =>
    intro exchange hexchange hask
    rcases List.mem_append.mp hexchange with hexchange | hexchange
    · exact absurd hask (ask_ne_running hcourse hexchange .backend)
    · exact hfinishes.code exchange hexchange hask
  case scratch_gone =>
    intro scratch hscratch hpresent
    rw [honly hscratch] at hpresent
    obtain ⟨rfl, hkeep⟩ := hfinishes.gone hpresent
    exact ⟨⟨_, rfl⟩, hkeep⟩
  case scratch_kept =>
    rintro scratch hscratch hspares ⟨artifacts, hresult⟩ hkeep
    rw [honly hscratch] at hspares ⊢
    exact hfinishes.kept (hspares.mono (List.subset_append_right _ _)) (hok hresult) hkeep
  case scratch_named =>
    intro artifacts hresult hkeep
    obtain rfl := hok hresult
    refine ⟨findings.scratch, ?_, ?_⟩
    · rw [← Except.ok.inj hresult]
      exact if_pos hkeep
    · rw [hasked, List.append_assoc]
      exact List.mem_append_left _ hmade

end Whole

/-- On any machine, whatever it answers, a build takes its steps in order, stops at the first failure
with that step's error, and keeps its scratch directory exactly if it succeeds and is asked to. The
record of the run is only looked at: without it the build ends in the same way. -/
theorem build_failStop {present : σ → String → Prop} {holds : σ → String → String → Prop}
    (filing : Filing present holds) (request : Request) (start : σ) :
    ∃ findings log result final,
      ((build (m := Recorded σ) request).run.run []).run start = ((result, log), final) ∧
      (build (m := StateM σ) request).run.run start = (result, final) ∧
      FailStop present holds request findings log result final := by
  have hends : ∃ findings log result final, Makes (build (m := Recorded σ) request).run start log
      result final ∧ FailStop present holds request findings log result final := by
    rw [build_eq_prepare_finish]
    cases pursues_prepare request start with
    | failed findings error log after _ hmakes hcourse =>
        exact ⟨findings, log, _, after, hmakes.bind_error, failStop_of_failed after hcourse⟩
    | done findings prepared after _ hmakes hcourse hmade =>
        obtain ⟨state, hmade⟩ := hmade
        obtain ⟨log, rest, failure, final, hfinish, hfinishes⟩ :=
          makes_finish filing request findings after (filing.present_made state _ after hmade)
        exact ⟨findings, _, _, final, hmakes.bind_ok hfinish,
          failStop_of_finished hcourse hfinishes⟩
  obtain ⟨findings, log, result, final, hmakes, hfailStop⟩ := hends
  refine ⟨findings, log, result, final, hmakes [], ?_, hfailStop⟩
  have herased := erases_build request [] start
  rw [hmakes []] at herased
  exact herased.symm

/-- A machine with one project, whose linker never succeeds. -/
structure Bench where
  directories : List String := []
  files : List (String × String) := []
  deriving DecidableEq

namespace Bench

instance : Host (StateM Bench) where
  report _ := pure ()
  getEnv _ := pure none
  findProgram name := pure (some ("/bin/" ++ name))
  canonical path := pure (.ok path)
  readText _ := pure (.ok "print 7")
  writeText path text := do
    modify fun bench => { bench with files := (path, text) :: bench.files }
    return .ok ()
  scratchParent := pure "/tmp"
  makeScratch := do
    modify fun bench => { bench with directories := "/tmp/a" :: bench.directories }
    return .ok "/tmp/a"
  removeScratch path :=
    modify fun bench => { bench with directories := bench.directories.filter (· ≠ path) }
  runProgram program _ _ :=
    pure (.ok ⟨.exited (if program = "/bin/cc" then 1 else 0), [], []⟩)

def present (bench : Bench) (path : String) : Prop :=
  path ∈ bench.directories

def holds (bench : Bench) (path text : String) : Prop :=
  bench.files.lookup path = some text

theorem filing : Filing present holds where
  present_made := by
    rintro bench path after hmade
    obtain ⟨hpath, rfl⟩ := Prod.mk.inj hmade
    rw [← Except.ok.inj hpath]
    exact List.mem_cons_self
  absent_removed := by
    intro bench path hstays
    exact absurd rfl (of_decide_eq_true (List.mem_filter.mp hstays).2)
  present_written := fun _ _ _ _ h => h
  present_reported := fun _ _ _ h => h
  holds_written := by
    rintro bench path text after hwritten
    obtain ⟨-, rfl⟩ := Prod.mk.inj hwritten
    exact List.lookup_cons_self
  holds_reported := fun _ _ _ _ h => h

/-- The build of its project, with the scratch directory to be kept. -/
def request : Request :=
  { directory := "/p", output := "a", keepScratch := true }

end Bench

/-- A build whose last step fails, and which is asked to keep its scratch directory, removes it. -/
theorem build_failStop_linkerFailed :
    let ended := (build (m := StateM Bench) Bench.request).run.run {}
    failureOf ended.1
      = some (.toolFailed "/bin/cc" ["/tmp/a/out.s", "-o", "/p/a"] (.exited 1) "" "") ∧
    ended.2.files.map Prod.fst = ["/tmp/a/out.ssa"] ∧ ended.2.directories = [] ∧
    ∃ findings log result final,
      ((build (m := Recorded Bench) Bench.request).run.run []).run {} = ((result, log), final) ∧
      (build (m := StateM Bench) Bench.request).run.run {} = (result, final) ∧
      FailStop Bench.present Bench.holds Bench.request findings log result final := by
  have hread : Source.parse = Source.read := funext Source.parse_eq_read
  refine ⟨?_, ?_, ?_, build_failStop Bench.filing Bench.request {}⟩
  all_goals
    simp only [build, compileStep, compile, analyze, hread]
    decide +kernel

end StraightLine
