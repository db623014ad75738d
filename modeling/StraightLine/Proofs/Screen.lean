import StraightLine.Host.Record
import StraightLine.Proofs.Outcome
import StraightLine.Sandbox

/-! What can be seen of a machine while a command runs on it: the text it has printed and the text it
has complained with. A few laws say what the requests of a command do to these; whatever follows from
the laws holds on every machine that keeps them, and the machine that is a value does. -/

namespace StraightLine

open Outcome

/-- The views of a machine with states `σ`: its two streams, and the filter that its reports go
through before they are shown. -/
structure Screen (σ : Type) where
  stdout : σ → String
  stderr : σ → String
  filter : σ → Option LogFilter

namespace Screen

variable {σ : Type}

/-- The machine looks the same in both states, and reports go through the same filter. -/
structure Unchanged (screen : Screen σ) (before after : σ) : Prop where
  stdout : screen.stdout after = screen.stdout before
  stderr : screen.stderr after = screen.stderr before
  filter : screen.filter after = screen.filter before

variable {screen : Screen σ} {first second third : σ}

theorem Unchanged.refl (state : σ) : screen.Unchanged state state :=
  ⟨rfl, rfl, rfl⟩

theorem Unchanged.trans (h : screen.Unchanged first second) (h' : screen.Unchanged second third) :
    screen.Unchanged first third :=
  ⟨h'.stdout.trans h.stdout, h'.stderr.trans h.stderr, h'.filter.trans h.filter⟩

/-- How a run that started in a state ended: its code, and what it added to the two streams. -/
structure Ends (screen : Screen σ) (start : σ) (result : Nat × σ) (code : Nat)
    (printed complained : String) : Prop where
  code_eq : result.1 = code
  stdout_eq : screen.stdout result.2 = screen.stdout start ++ printed
  stderr_eq : screen.stderr result.2 = screen.stderr start ++ complained

theorem Unchanged.ends {result : Nat × σ} {code : Nat} {printed complained : String}
    (h : screen.Unchanged first second) (hends : screen.Ends second result code printed complained) :
    screen.Ends first result code printed complained := by
  obtain ⟨hcode, hstdout, hstderr⟩ := hends
  rw [h.stdout] at hstdout
  rw [h.stderr] at hstderr
  exact ⟨hcode, hstdout, hstderr⟩

variable [Console (StateM σ)]

/-- Nobody sees a machine look up a variable or read a file, and neither that nor a new filter changes
what the files hold. There is no file with an empty path. A report that the filter stops leaves no
trace, and texts are added to the stream they are meant for. -/
structure Lawful (screen : Screen σ) : Prop where
  lookedUp : ∀ state name, screen.Unchanged state ((Ask.getEnv name).reply state).2
  read : ∀ state path, screen.Unchanged state ((Ask.readText path).reply state).2
  read_lookedUp : ∀ (state : σ) name path,
    ((Ask.readText path).reply ((Ask.getEnv name).reply state).2).1 =
      ((Ask.readText path).reply state).1
  read_listening : ∀ (state : σ) filter path,
    ((Ask.readText path).reply ((Console.listen (m := StateM σ) filter).run state).2).1 =
      ((Ask.readText path).reply state).1
  read_empty : ∀ (state : σ) text, ((Ask.readText "").reply state).1 ≠ .ok text
  listening : ∀ state filter,
    screen.stdout ((Console.listen (m := StateM σ) filter).run state).2 = screen.stdout state ∧
      screen.stderr ((Console.listen (m := StateM σ) filter).run state).2 = screen.stderr state ∧
      screen.filter ((Console.listen (m := StateM σ) filter).run state).2 = some filter
  stopped : ∀ state event, (∀ filter ∈ screen.filter state, filter.shows event = false) →
    screen.Unchanged state ((Ask.report event).reply state).2
  printed : ∀ state text,
    screen.stdout ((Console.print (m := StateM σ) text).run state).2 = screen.stdout state ++ text ∧
      screen.stderr ((Console.print (m := StateM σ) text).run state).2 = screen.stderr state
  complained : ∀ state text,
    screen.stdout ((Console.complain (m := StateM σ) text).run state).2 = screen.stdout state ∧
      screen.stderr ((Console.complain (m := StateM σ) text).run state).2 =
        screen.stderr state ++ text

namespace Lawful

variable (laws : screen.Lawful) {state : σ}

include laws

theorem ends_print (state : σ) (code : Nat) (text : String) :
    screen.Ends state ((do Console.print text; return code : StateM σ Nat).run state) code text "" := by
  obtain ⟨hstdout, hstderr⟩ := laws.printed state text
  exact ⟨rfl, hstdout, hstderr.trans String.append_empty.symm⟩

theorem ends_complain (state : σ) (code : Nat) (text : String) :
    screen.Ends state ((do Console.complain text; return code : StateM σ Nat).run state) code ""
      text := by
  obtain ⟨hstdout, hstderr⟩ := laws.complained state text
  exact ⟨rfl, hstdout.trans String.append_empty.symm, hstderr⟩

/-- Reports that the filter stops leave no trace, however many there are. -/
theorem unchanged_reports {events : List Event}
    (h : ∀ event ∈ events, ∀ filter ∈ screen.filter state, filter.shows event = false) :
    screen.Unchanged state ((events.forM (Host.report (m := StateM σ))).run state).2 := by
  induction events generalizing state with
  | nil => exact .refl state
  | cons event rest ih =>
      obtain ⟨hevent, hrest⟩ := List.forall_mem_cons.mp h
      have hfirst := laws.stopped state event hevent
      refine hfirst.trans (ih ?_)
      rw [hfirst.filter]
      exact hrest

/-- Passing on reports that the filter stops gives the outcome and shows nothing. -/
theorem run_follow {ε α : Type} {traced : Traced ε α}
    (h : ∀ event ∈ traced.events, ∀ filter ∈ screen.filter state, filter.shows event = false) :
    ∃ after, screen.Unchanged state after ∧
      (follow (m := StateM σ) traced).run state = (traced.outcome, after) :=
  ⟨_, laws.unchanged_reports h, rfl⟩

theorem run_withText {file text : String} (use : String → StateM σ Nat)
    (h : ((Ask.readText file).reply state).1 = .ok text) :
    ∃ after, screen.Unchanged state after ∧
      (withText file use).run state = (use text).run after := by
  have hanswer : (Host.readText (m := StateM σ) file).run state =
      (.ok text, ((Ask.readText file).reply state).2) := Prod.ext h rfl
  refine ⟨_, laws.read state file, ?_⟩
  simp only [withText, StateT.run_bind, hanswer]
  rfl

theorem ne_empty_of_read {file text : String} (h : ((Ask.readText file).reply state).1 = .ok text) :
    file ≠ "" := by
  rintro rfl
  exact laws.read_empty state text h

end Lawful

end Screen

namespace Sandbox

/-- The views of the machine that is a value. -/
def screen : Screen Sandbox :=
  ⟨stdout, stderr, listening⟩

theorem ne_empty_of_readText {sandbox : Sandbox} {file text : String}
    (h : sandbox.readText file = .ok text) : file ≠ "" := by
  rintro rfl
  have hempty : "".isEmpty = true := by decide
  have hlocate : ∃ error, sandbox.tree.locateAs true sandbox.directory "" = .error error := by
    simp only [FileTree.locateAs, FileTree.resolve, hempty]
    split
    · exact ⟨_, rfl⟩
    · split <;> exact ⟨_, rfl⟩
  obtain ⟨error, herror⟩ := hlocate
  simp only [readText, FileTree.read, FileTree.find, FileTree.findAs, herror, error_bind] at h
  cases h

theorem unchanged_report {sandbox : Sandbox} {event : Event}
    (h : ∀ filter ∈ sandbox.listening, filter.shows event = false) :
    screen.Unchanged sandbox (sandbox.report event) := by
  have hshown : sandbox.listening.any (·.shows event) = false := by
    cases hlistening : sandbox.listening with
    | none => rfl
    | some filter => exact h filter hlistening
  refine ⟨rfl, ?_, rfl⟩
  simp [screen, report, hshown]

theorem screen_lawful : screen.Lawful where
  lookedUp _ _ := ⟨rfl, rfl, rfl⟩
  read _ _ := ⟨rfl, rfl, rfl⟩
  read_lookedUp _ _ _ := rfl
  read_listening _ _ _ := rfl
  read_empty _ _ h := ne_empty_of_readText h rfl
  listening _ _ := ⟨rfl, rfl, rfl⟩
  stopped _ _ h := unchanged_report h
  printed _ _ := ⟨rfl, rfl⟩
  complained _ _ := ⟨rfl, rfl⟩

end Sandbox

end StraightLine
