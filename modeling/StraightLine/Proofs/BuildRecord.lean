import StraightLine.Build
import StraightLine.Host.Record

/-! Running a build on a machine that keeps a record. The record changes nothing: the build ends with
the same result in the same state as without it. What a run writes down is put together from what its
parts write down. -/

namespace StraightLine

variable {σ : Type} {ε α β : Type}

/-- Work with a record and work without one that have the same result and the same effect. -/
def Erases (recorded : Recorded σ α) (plain : StateM σ α) : Prop :=
  ∀ log state, (((recorded.run log).run state).1.1, ((recorded.run log).run state).2)
    = plain.run state

namespace Erases

theorem pure (value : α) : Erases (Pure.pure value : Recorded σ α) (Pure.pure value) :=
  fun _ _ => rfl

theorem bind {first : Recorded σ α} {first' : StateM σ α} {next : α → Recorded σ β}
    {next' : α → StateM σ β} (hfirst : Erases first first')
    (hnext : ∀ value, Erases (next value) (next' value)) :
    Erases (first >>= next) (first' >>= next') := by
  intro log state
  have hrest := hnext ((first.run log).run state).1.1 ((first.run log).run state).1.2
    ((first.run log).run state).2
  change _ = (next' (first'.run state).1).run (first'.run state).2
  rw [← hfirst log state]
  exact hrest

theorem record [Host (StateM σ)] (ask : Ask) :
    Erases (ask.record : Recorded σ ask.Answer) ask.put :=
  fun _ _ => rfl

/-- Work that may fail goes on only with a value, with a record and without one. -/
theorem bindExcept {first : ExceptT ε (Recorded σ) α} {first' : ExceptT ε (StateM σ) α}
    {next : α → ExceptT ε (Recorded σ) β} {next' : α → ExceptT ε (StateM σ) β}
    (hfirst : Erases first.run first'.run)
    (hnext : ∀ value, Erases (next value).run (next' value).run) :
    Erases (first >>= next).run (first' >>= next').run := by
  change Erases (first.run >>= ExceptT.bindCont next) (first'.run >>= ExceptT.bindCont next')
  apply hfirst.bind
  intro result
  cases result with
  | error error => exact .pure _
  | ok value => exact hnext value

theorem lift {recorded : Recorded σ α} {plain : StateM σ α} (h : Erases recorded plain) :
    Erases (liftM recorded : ExceptT ε (Recorded σ) α).run
      (liftM plain : ExceptT ε (StateM σ) α).run :=
  h.bind fun _ => .pure _

theorem attempt {wrap : ε → BuildError} {recorded : Recorded σ (Except ε α)}
    {plain : StateM σ (Except ε α)} (h : Erases recorded plain) :
    Erases (StraightLine.attempt wrap recorded).run (StraightLine.attempt wrap plain).run :=
  h.bind fun _ => .pure _

end Erases

section Parts

variable [Host (StateM σ)]

theorem erases_lookup (role : Role) :
    Erases (role.lookup : Recorded σ (Option Tool)) role.lookup :=
  (Erases.record (.findProgram role.command)).bind fun _ => .pure _

theorem erases_resolveRole (role : Role) (override : Option String) :
    Erases (role.resolve override : Recorded σ (Option Tool)) (role.resolve override) := by
  cases override with
  | some program => exact .pure _
  | none =>
      apply (Erases.record (.getEnv role.envName)).bind
      intro setting
      cases setting with
      | none => exact erases_lookup role
      | some value =>
          dsimp only
          split
          · exact erases_lookup role
          · exact .pure _

theorem erases_resolve (overrides : Overrides) :
    Erases (overrides.resolve (m := Recorded σ)).run (overrides.resolve (m := StateM σ)).run := by
  apply (erases_resolveRole .backend overrides.backend).lift.bindExcept
  intro backend
  cases backend with
  | none => exact .pure _
  | some backend =>
      apply (erases_resolveRole .linker overrides.linker).lift.bindExcept
      intro linker
      cases linker <;> exact .pure _

theorem erases_reports (events : List Event) :
    Erases
      (events.forM fun event =>
        (liftM (Host.report (m := Recorded σ) event) : ExceptT BuildError (Recorded σ) Unit)).run
      (events.forM fun event =>
        (liftM (Host.report (m := StateM σ) event) : ExceptT BuildError (StateM σ) Unit)).run := by
  induction events with
  | nil => exact .pure _
  | cons event events ih => exact (Erases.record (.report event)).lift.bindExcept fun _ => ih

theorem erases_compileStep (options : Options) (text : String) :
    Erases (compileStep (m := Recorded σ) options text).run
      (compileStep (m := StateM σ) options text).run :=
  (erases_reports _).bindExcept fun _ => (Erases.pure _).attempt

theorem erases_runTool (tool : Tool) (args : List String) (directory : String) :
    Erases (runTool (m := Recorded σ) tool args directory).run
      (runTool (m := StateM σ) tool args directory).run := by
  apply (Erases.record (.report _)).lift.bindExcept
  intro _
  apply (Erases.record (.runProgram tool.program args directory)).attempt.bindExcept
  intro finished
  split <;> exact .pure _

theorem erases_assemble (tools : Toolchain) (code scratch executable : String) :
    Erases (assemble (m := Recorded σ) tools code scratch executable).run
      (assemble (m := StateM σ) tools code scratch executable).run := by
  apply (Erases.record (.writeText _ code)).attempt.bindExcept
  intro _
  apply (Erases.record (.report _)).lift.bindExcept
  intro _
  apply (erases_runTool tools.backend _ scratch).bindExcept
  intro _
  exact erases_runTool tools.linker _ scratch

/-- A build does the same whether or not a record is kept of it. -/
theorem erases_build (request : Request) :
    Erases (build (m := Recorded σ) request).run (build (m := StateM σ) request).run := by
  apply (Erases.record (.canonical request.directory)).attempt.bindExcept
  intro directory
  apply (Erases.record (.readText _)).attempt.bindExcept
  intro text
  apply (Erases.record (.report _)).lift.bindExcept
  intro _
  apply (erases_compileStep request.options text).bindExcept
  intro code
  apply (erases_resolve request.overrides).attempt.bindExcept
  intro tools
  apply (Erases.record .scratchParent).lift.bindExcept
  intro parent
  apply (Erases.record .makeScratch).attempt.bindExcept
  intro scratch
  apply (erases_assemble tools code scratch _).lift.bindExcept
  intro assembled
  cases assembled with
  | error error => exact (Erases.record (.removeScratch scratch)).lift.bindExcept fun _ => .pure _
  | ok _ =>
      apply (Erases.record (.report _)).lift.bindExcept
      intro _
      split
      · exact .pure _
      · exact (Erases.record (.removeScratch scratch)).lift.bindExcept fun _ => .pure _

end Parts

/-- From a state, work gives a result and ends in a state, and writes down some exchanges. -/
def Makes (action : Recorded σ α) (before : σ) (log : List (Exchange σ)) (result : α) (after : σ) :
    Prop :=
  ∀ past, (action.run past).run before = ((result, past ++ log), after)

namespace Makes

theorem pure (value : α) (state : σ) : Makes (Pure.pure value) state [] value state := by
  intro past
  rw [List.append_nil]
  rfl

theorem bind {first : Recorded σ α} {next : α → Recorded σ β} {before middle after : σ}
    {log more : List (Exchange σ)} {value : α} {result : β} (hfirst : Makes first before log value middle)
    (hnext : Makes (next value) middle more result after) :
    Makes (first >>= next) before (log ++ more) result after := by
  intro past
  change ((next ((first.run past).run before).1.1).run ((first.run past).run before).1.2).run
    ((first.run past).run before).2 = _
  rw [hfirst past, ← List.append_assoc]
  exact hnext (past ++ log)

theorem map {first : Recorded σ α} {before after : σ} {log : List (Exchange σ)} {value : α}
    (hfirst : Makes first before log value after) (f : α → β) :
    Makes (first >>= fun value => Pure.pure (f value)) before log (f value) after := by
  rw [← List.append_nil log]
  exact hfirst.bind (.pure (f value) after)

theorem record [Host (StateM σ)] (ask : Ask) (state : σ) :
    Makes ask.record state [⟨state, ask, (ask.reply state).1⟩] (ask.reply state).1
      (ask.reply state).2 :=
  fun _ => rfl

theorem bind_ok {first : ExceptT ε (Recorded σ) α} {next : α → ExceptT ε (Recorded σ) β}
    {before middle after : σ} {log more : List (Exchange σ)} {value : α} {result : Except ε β}
    (hfirst : Makes first.run before log (.ok value) middle)
    (hnext : Makes (next value).run middle more result after) :
    Makes (first >>= next).run before (log ++ more) result after := by
  change Makes (first.run >>= ExceptT.bindCont next) _ _ _ _
  exact hfirst.bind hnext

theorem bind_error {first : ExceptT ε (Recorded σ) α} {next : α → ExceptT ε (Recorded σ) β}
    {before after : σ} {log : List (Exchange σ)} {error : ε}
    (hfirst : Makes first.run before log (.error error) after) :
    Makes (first >>= next).run before log (.error error) after := by
  change Makes (first.run >>= ExceptT.bindCont next) _ _ _ _
  rw [← List.append_nil log]
  exact hfirst.bind (.pure _ after)

theorem lift {action : Recorded σ α} {before after : σ} {log : List (Exchange σ)} {value : α}
    (h : Makes action before log value after) :
    Makes (liftM action : ExceptT ε (Recorded σ) α).run before log (.ok value) after :=
  h.map _

theorem attempt {wrap : ε → BuildError} {action : Recorded σ (Except ε α)} {before after : σ}
    {log : List (Exchange σ)} {answer : Except ε α} (h : Makes action before log answer after) :
    Makes (StraightLine.attempt wrap action).run before log (answer.mapError wrap) after :=
  h.map _

end Makes

theorem asked_append (log more : List (Exchange σ)) : asked (log ++ more) = asked log ++ asked more := by
  simp only [asked, List.map_append, List.filter_append]

theorem said_mem_asked {log : List (Exchange σ)} {exchange : Exchange σ} (h : exchange ∈ log)
    (hreport : exchange.ask.isReport = false) : exchange.said ∈ asked log :=
  List.mem_filter.mpr ⟨List.mem_map_of_mem h, by simp [Exchange.said, hreport]⟩

end StraightLine
