import StraightLine.Proofs.Compilation
import StraightLine.Proofs.FoldRange
import StraightLine.Proofs.Screen

/-! What the commands say about a file. Checking a file and printing its code with folding off end
with the same code and the same complaints, whatever the file holds: the messages of a program are
errors, so none is left to be reported once the program is compiled, and all other reports are
quieter than what is shown. With folding on, printing code can fail where checking succeeds, but
only on a result that no word holds. -/

namespace StraightLine

open Outcome

namespace CommandLine

theorem readWords_operand {flags : List FlagSpec} {file : String} (hne : file ≠ "")
    (hshape : shape file = .other file) (rest : List String) :
    readWords flags 1 {} none (file :: rest) =
      readWords flags 1 { operands := [file] } none rest := by
  have hempty : file.isEmpty = false := by simpa using hne
  simp only [readWords, hshape, Given.operand, hempty]
  rfl

/-- With a command as the first word, a command line means what the words after it mean to the
command. -/
theorem read_cons {name : String} (h : shape name = .other name) (words : List String) :
    read (name :: words) = (fun given => ⟨given.1, given.2⟩) <$> command? name words := by
  simp only [read, readLeading, h]
  cases command? name words with
  | error reason => rfl
  | ok given =>
      obtain ⟨verbose, command⟩ := given
      cases verbose with
      | zero => rfl
      | succ count => rfl

theorem read_check {file : String} (hne : file ≠ "") (hshape : shape file = .other file) :
    read ["check", file] = .ok ⟨0, .check file⟩ := by
  rw [read_cons (by decide), command?, readWords_operand hne hshape]
  rfl

/-- The words that ask for options. -/
def optionWords (options : Options) : List String :=
  if options.fold then [] else ["--no-optimize"]

theorem read_emit {file : String} (hne : file ≠ "") (hshape : shape file = .other file)
    (options : Options) :
    read ("emit-ir" :: file :: optionWords options) = .ok ⟨0, .emit file options⟩ := by
  rw [read_cons (by decide), command?, readWords_operand hne hshape]
  obtain ⟨fold⟩ := options
  cases fold with
  | true => rfl
  | false => rfl

end CommandLine

namespace Traced

variable {ε ε' α β : Type}

/-- Nothing in the reports of a computation is a warning. -/
def Quiet (traced : Traced ε α) : Prop :=
  ∀ event ∈ traced.events, event.level ≠ .warn

theorem Quiet.silent (result : Except ε α) : (Traced.silent result).Quiet :=
  fun _ hevent => absurd hevent List.not_mem_nil

theorem Quiet.pure (a : α) : (pure a : Traced ε α).Quiet :=
  fun _ hevent => absurd hevent List.not_mem_nil

theorem Quiet.report {events : List Event} (h : ∀ event ∈ events, event.level ≠ .warn) :
    (Traced.report events : Traced ε Unit).Quiet := h

theorem Quiet.bind {first : Traced ε α} {next : α → Traced ε β} (hfirst : first.Quiet)
    (hnext : ∀ a, first.outcome = .ok a → (next a).Quiet) : (first >>= next).Quiet := by
  intro event hevent
  rcases mem_events_bind hevent with hevent | ⟨a, ha, hevent⟩
  · exact hfirst event hevent
  · exact hnext a ha event hevent

end Traced

open Traced

theorem quiet_analyze (text : String) : (analyze text).Quiet := by
  refine (Quiet.silent _).bind fun tokens _ => ?_
  refine (Quiet.report (by simp [Event.level])).bind fun _ _ => ?_
  refine (Quiet.silent _).bind fun program _ => ?_
  refine (Quiet.report (by simp [Event.level])).bind fun _ _ => ?_
  refine (Quiet.report (by simp [Event.level])).bind fun _ _ => ?_
  exact Quiet.pure _

theorem quiet_foldIf (options : Options) (bound : Bound.Program) :
    (foldIf options bound).Quiet := by
  unfold foldIf
  split
  · refine Quiet.bind (Quiet.silent bound.fold) fun folded _ => ?_
    exact (Quiet.report (by simp [Event.level])).bind fun _ _ => Quiet.pure _
  · exact (Quiet.report (by simp [Event.level])).bind fun _ _ => Quiet.pure _

theorem quiet_writeCode (bound : Bound.Program) : (writeCode bound).Quiet := by
  refine Quiet.bind (Quiet.report ?_) fun _ _ => ?_
  · intro event hevent
    obtain ⟨index, hindex, rfl⟩ := List.mem_mapIdx.mp hevent
    simp [Event.level]
  · exact (Quiet.report (by simp [Event.level])).bind fun _ _ => Quiet.pure _

theorem quiet_compileBound {options : Options} {bound : Bound.Program}
    (h : bound.hasErrors = false → bound.diagnostics = []) :
    (compileBound options bound).Quiet := by
  unfold compileBound
  split
  · exact fun _ hevent => absurd hevent List.not_mem_nil
  · rename_i herrors
    have hnone : bound.diagnostics = [] := h (by simpa using herrors)
    rw [hnone]
    refine (Quiet.report (by simp)).bind fun _ _ => ?_
    exact (quiet_foldIf options bound).bind fun final _ => quiet_writeCode final

theorem Source.diagnostics_of_noErrors {program : Source.Program}
    (h : (Source.bind program).hasErrors = false) : (Source.bind program).diagnostics = [] := by
  have hfaults : program.faults = [] := by simpa [Source.hasErrors_bind] using h
  rw [Source.diagnostics_bind, hfaults]
  rfl

theorem quiet_compile (options : Options) (text : String) : (compile options text).Quiet := by
  refine Quiet.bind (quiet_analyze text) fun bound hbound => ?_
  obtain ⟨tokens, program, -, -, rfl⟩ := analyze_eq_ok.mp (mapError_eq_ok.mp hbound)
  exact quiet_compileBound Source.diagnostics_of_noErrors

/-- The lines that complain about messages. -/
def complaints (diagnostics : List Diagnostic) : String :=
  String.join (diagnostics.map (·.render ++ "\n"))

/-- The text that complains about a text that is not compiled. -/
def CompileError.complaint : CompileError → String
  | .rejected diagnostics => complaints diagnostics
  | error => "Error: " ++ error.message ++ "\n"

/-- What there is to complain about in a text: that it is no program, or every message about the
program in order. -/
def complaintAbout (text : String) : String :=
  match (analyze text).outcome with
  | .error error => "Error: " ++ error.message ++ "\n"
  | .ok bound => complaints bound.diagnostics

section Commands

variable {σ : Type} [Console (StateM σ)]

/-- Runs a command line on a machine, to its code. -/
def runWords (state : σ) (words : List String) : Nat × σ :=
  (runCommandLine (m := StateM σ) words).run state

namespace Screen.Lawful

variable {screen : Screen σ} (laws : screen.Lawful) {state : σ}

include laws

theorem ends_fail (state : σ) (message : String) :
    screen.Ends state ((fail (m := StateM σ) message none).run state) 1 ""
      ("Error: " ++ message ++ "\n") := by
  have htext : "Error: " ++ message ++ "\n" = "Error: " ++ message ++ "" ++ "\n" := by
    rw [String.append_empty]
  rw [htext]
  exact laws.ends_complain state 1 _

theorem ends_failCompile (state : σ) (error : CompileError) :
    screen.Ends state ((failCompile (m := StateM σ) error).run state) 1 "" error.complaint := by
  cases error with
  | rejected diagnostics => exact laws.ends_complain state 1 _
  | unreadable error => exact laws.ends_fail state error.message
  | unfoldable error => exact laws.ends_fail state error.message

variable {file text : String} {words : List String}
  (hread : ((Ask.readText file).reply state).1 = .ok text)
  (hlog : ((Ask.getEnv "RUST_LOG").reply state).1.bind LogFilter.ofText? = none)

include hread hlog

/-- A command starts on a machine that looks as before, that shows warnings only, and whose files are
the same. -/
theorem exists_start {command : Command} (hwords : CommandLine.read words = .ok ⟨0, command⟩) :
    ∃ start, runWords state words = (command.run (m := StateM σ)).run start ∧
      ((Ask.readText file).reply start).1 = .ok text ∧
      screen.stdout start = screen.stdout state ∧ screen.stderr start = screen.stderr state ∧
      screen.filter start = some (.ofVerbosity .warn) := by
  let lookedUp := ((Ask.getEnv "RUST_LOG").reply state).2
  have hlooked := laws.lookedUp state "RUST_LOG"
  obtain ⟨hstdout, hstderr, hfilter⟩ := laws.listening lookedUp (.ofVerbosity .warn)
  refine ⟨_, ?_, ?_, hstdout.trans hlooked.stdout, hstderr.trans hlooked.stderr, hfilter⟩
  · rw [runWords, runCommandLine, hwords]
    change (do
      Console.listen ((((Ask.getEnv "RUST_LOG").reply state).1.bind LogFilter.ofText?).getD _)
      command.run : StateM σ Nat).run lookedUp = _
    rw [hlog]
    rfl
  · rw [laws.read_listening, laws.read_lookedUp, hread]

/-- A command about a file whose reports are quiet goes on with its outcome, and the machine looks as
before. -/
theorem runWords_quiet {ε α : Type} {command : Command} {traced : Traced ε α}
    {goOn : Except ε α → StateM σ Nat} {use : String → StateM σ Nat} {code : Nat}
    {printed complained : String} (hwords : CommandLine.read words = .ok ⟨0, command⟩)
    (hcommand : command.run = withText file use) (huse : use text = follow traced >>= goOn)
    (hquiet : traced.Quiet)
    (hgoOn : ∀ after, screen.Ends after ((goOn traced.outcome).run after) code printed complained) :
    screen.Ends state (runWords state words) code printed complained := by
  obtain ⟨start, hstart, hsame, hstdout, hstderr, hfilter⟩ :=
    laws.exists_start hread hlog hwords
  obtain ⟨opened, hopened, hwith⟩ := laws.run_withText use hsame
  have hstopped : ∀ event ∈ traced.events, ∀ filter ∈ screen.filter opened,
      filter.shows event = false := by
    intro event hevent filter hmem
    rw [hopened.filter, hfilter] at hmem
    cases hmem
    simpa [Verbosity.shows] using hquiet event hevent
  obtain ⟨after, hafter, hfollow⟩ := laws.run_follow hstopped
  obtain ⟨hcode, hprinted, hcomplained⟩ := (hopened.trans hafter).ends (hgoOn after)
  rw [hstart, hcommand, hwith, huse, StateT.run_bind, hfollow]
  exact ⟨hcode, hstdout ▸ hprinted, hstderr ▸ hcomplained⟩

theorem ends_check_unreadable {error : SyntaxError}
    (hwords : CommandLine.read words = .ok ⟨0, .check file⟩)
    (h : (analyze text).outcome = .error error) :
    screen.Ends state (runWords state words) 1 "" (CompileError.unreadable error).complaint := by
  refine laws.runWords_quiet hread hlog hwords rfl rfl (quiet_analyze text) fun after => ?_
  rw [h]
  exact laws.ends_fail after error.message

theorem ends_check_bound {bound : Bound.Program}
    (hwords : CommandLine.read words = .ok ⟨0, .check file⟩)
    (h : (analyze text).outcome = .ok bound) :
    screen.Ends state (runWords state words) (if bound.hasErrors then 1 else 0) ""
      (complaints bound.diagnostics) := by
  refine laws.runWords_quiet hread hlog hwords rfl rfl (quiet_analyze text) fun after => ?_
  rw [h]
  exact laws.ends_complain after _ _

theorem ends_emit_code {options : Options} {ir : String}
    (hwords : CommandLine.read words = .ok ⟨0, .emit file options⟩)
    (h : (compile options text).outcome = .ok ir) :
    screen.Ends state (runWords state words) 0 ir "" := by
  refine laws.runWords_quiet hread hlog hwords rfl rfl (quiet_compile options text) fun after => ?_
  rw [h]
  exact laws.ends_print after 0 ir

theorem ends_emit_error {options : Options} {error : CompileError}
    (hwords : CommandLine.read words = .ok ⟨0, .emit file options⟩)
    (h : (compile options text).outcome = .error error) :
    screen.Ends state (runWords state words) 1 "" error.complaint := by
  refine laws.runWords_quiet hread hlog hwords rfl rfl (quiet_compile options text) fun after => ?_
  rw [h]
  exact laws.ends_failCompile after error

end Screen.Lawful

end Commands

/-- What compiling makes of a readable text without errors. With folding off there is always code;
with folding on there is, unless a result fits no word. -/
theorem outcome_compile_of_noErrors {text : String} {program : Source.Program}
    (h : (analyze text).outcome = .ok (Source.bind program))
    (herrors : (Source.bind program).hasErrors = false) :
    (∃ ir, (compile { fold := false } text).outcome = .ok ir) ∧
      ((∃ ir, (compile {} text).outcome = .ok ir) ∨
        ∃ error, (compile {} text).outcome = .error (.unfoldable error) ∧ error.Exceeds) := by
  rw [outcome_compile_of_bound _ h, outcome_compile_of_bound _ h, outcome_compileBound herrors,
    outcome_compileBound herrors, outcome_foldIf, outcome_foldIf]
  refine ⟨⟨_, rfl⟩, ?_⟩
  have hsettles := Source.fold_bind_settles herrors
  cases hfold : (Source.bind program).fold with
  | ok folded => exact Or.inl ⟨_, rfl⟩
  | error error =>
      rw [hfold] at hsettles
      exact Or.inr ⟨error, rfl, hsettles⟩

section Verdict

variable {σ : Type}

/-- How checking a file compares with printing its code, plain and folded, all on the same machine:
the code each run ended with and the machine afterwards. -/
structure SameVerdict (screen : Screen σ) (state : σ) (text : String)
    (check plain folded : Nat × σ) : Prop where
  same_code : check.1 = plain.1
  same_complaints : screen.stderr check.2 = screen.stderr plain.2
  check_complains : screen.stderr check.2 = screen.stderr state ++ complaintAbout text
  check_of_folded : folded.1 = 0 → check.1 = 0
  unfoldable : check.1 = 0 → folded.1 ≠ 0 →
    ∃ error, (compile {} text).outcome = .error (.unfoldable error) ∧
      ((∃ op left right, error = .overflow op left right) ∨
        ∃ value, error = .negationOverflow value) ∧
      screen.stderr folded.2 = screen.stderr state ++ ("Error: " ++ error.message ++ "\n")
  plain_prints_nothing : plain.1 ≠ 0 → screen.stdout plain.2 = screen.stdout state
  folded_prints_nothing : folded.1 ≠ 0 → screen.stdout folded.2 = screen.stdout state

/-- A text that is rejected is rejected by all three alike. -/
theorem SameVerdict.of_rejected {screen : Screen σ} {state : σ} {check plain folded : Nat × σ}
    {text : String} (hcheck : screen.Ends state check 1 "" (complaintAbout text))
    (hplain : screen.Ends state plain 1 "" (complaintAbout text))
    (hfolded : screen.Ends state folded 1 "" (complaintAbout text)) :
    SameVerdict screen state text check plain folded where
  same_code := hcheck.code_eq.trans hplain.code_eq.symm
  same_complaints := hcheck.stderr_eq.trans hplain.stderr_eq.symm
  check_complains := hcheck.stderr_eq
  check_of_folded hzero := absurd (hfolded.code_eq.symm.trans hzero) (by decide)
  unfoldable hzero := absurd (hcheck.code_eq.symm.trans hzero) (by decide)
  plain_prints_nothing _ := hplain.stdout_eq.trans String.append_empty
  folded_prints_nothing _ := hfolded.stdout_eq.trans String.append_empty

/-- A text without faults passes, and only folding may still fail. -/
theorem SameVerdict.of_passed {screen : Screen σ} {state : σ} {check plain folded : Nat × σ}
    {text ir : String} (hnone : complaintAbout text = "") (hcheck : screen.Ends state check 0 "" "")
    (hplain : screen.Ends state plain 0 ir "")
    (hfolded : (∃ ir', screen.Ends state folded 0 ir' "") ∨
      ∃ error, (compile {} text).outcome = .error (.unfoldable error) ∧ error.Exceeds ∧
        screen.Ends state folded 1 "" ("Error: " ++ error.message ++ "\n")) :
    SameVerdict screen state text check plain folded where
  same_code := hcheck.code_eq.trans hplain.code_eq.symm
  same_complaints := hcheck.stderr_eq.trans hplain.stderr_eq.symm
  check_complains := by rw [hnone, hcheck.stderr_eq]
  check_of_folded _ := hcheck.code_eq
  unfoldable _ hnonzero := by
    rcases hfolded with ⟨ir', hends⟩ | ⟨error, herror, hexceeds, hends⟩
    · exact absurd hends.code_eq hnonzero
    · refine ⟨error, herror, ?_, hends.stderr_eq⟩
      cases hexceeds with
      | overflow hl hr hexact => exact Or.inl ⟨_, _, _, rfl⟩
      | negationOverflow hfits hneg => exact Or.inr ⟨_, rfl⟩
  plain_prints_nothing hnonzero := absurd hplain.code_eq hnonzero
  folded_prints_nothing hnonzero := by
    rcases hfolded with ⟨ir', hends⟩ | ⟨error, herror, hexceeds, hends⟩
    · exact absurd hends.code_eq hnonzero
    · exact hends.stdout_eq.trans String.append_empty

/-- Whatever a readable file holds, checking it and printing its code without folding end with the
same code and the same complaints. Printing folded code succeeds only if checking does; if checking
succeeds and it does not, folding has met a result that no word holds. Nothing is printed unless
printing code succeeds. -/
theorem check_emit_agree [Console (StateM σ)] {screen : Screen σ} (laws : screen.Lawful) (state : σ)
    {file text : String} (hread : ((Ask.readText file).reply state).1 = .ok text)
    (hfile : CommandLine.shape file = .other file)
    (hlog : ((Ask.getEnv "RUST_LOG").reply state).1.bind LogFilter.ofText? = none) :
    SameVerdict screen state text (runWords state ["check", file])
      (runWords state ["emit-ir", file, "--no-optimize"]) (runWords state ["emit-ir", file]) := by
  have hne := laws.ne_empty_of_read hread
  have hcheck := CommandLine.read_check hne hfile
  have hplain := CommandLine.read_emit hne hfile { fold := false }
  have hfolded := CommandLine.read_emit hne hfile {}
  cases hanalyze : (analyze text).outcome with
  | error error =>
      have hcompile : ∀ options, (compile options text).outcome = .error (.unreadable error) :=
        fun options => outcome_compile_of_unreadable options hanalyze
      have htext : complaintAbout text = (CompileError.unreadable error).complaint := by
        rw [complaintAbout, hanalyze]
        rfl
      apply SameVerdict.of_rejected
      · rw [htext]
        exact laws.ends_check_unreadable hread hlog hcheck hanalyze
      · rw [htext]
        exact laws.ends_emit_error hread hlog hplain (hcompile _)
      · rw [htext]
        exact laws.ends_emit_error hread hlog hfolded (hcompile _)
  | ok bound =>
      obtain ⟨tokens, program, -, -, rfl⟩ := analyze_eq_ok.mp hanalyze
      have htext : complaintAbout text = complaints (Source.bind program).diagnostics := by
        rw [complaintAbout, hanalyze]
      have hends := laws.ends_check_bound hread hlog hcheck hanalyze
      cases herrors : (Source.bind program).hasErrors with
      | true =>
          rw [herrors, if_pos rfl] at hends
          have hcompile : ∀ options, (compile options text).outcome =
              .error (.rejected (Source.bind program).diagnostics) := by
            intro options
            rw [outcome_compile_of_bound _ hanalyze, outcome_compileBound_of_errors herrors]
          apply SameVerdict.of_rejected
          · rw [htext]
            exact hends
          · rw [htext]
            exact laws.ends_emit_error hread hlog hplain (hcompile _)
          · rw [htext]
            exact laws.ends_emit_error hread hlog hfolded (hcompile _)
      | false =>
          rw [herrors, if_neg (by decide), Source.diagnostics_of_noErrors herrors] at hends
          rw [Source.diagnostics_of_noErrors herrors] at htext
          obtain ⟨⟨ir, hir⟩, hfold⟩ := outcome_compile_of_noErrors hanalyze herrors
          refine .of_passed htext hends (laws.ends_emit_code hread hlog hplain hir) ?_
          rcases hfold with ⟨ir', hir'⟩ | ⟨error, herror, hexceeds⟩
          · exact Or.inl ⟨ir', laws.ends_emit_code hread hlog hfolded hir'⟩
          · exact Or.inr ⟨error, herror, hexceeds,
              laws.ends_emit_error hread hlog hfolded herror⟩

end Verdict

/-- A machine that holds one file, in the directory where commands run. -/
def Sandbox.holding (file text : String) : Sandbox :=
  { tree := { entries := [([file], .file (Text.utf8Bytes text) false)] } }

theorem names_singleLetter : Path.names "a" = ["a"] := by
  rw [Path.names, String.splitOn, if_neg (by decide)]
  -- One step passes over the letter, the other is at the end of the text.
  rw [String.splitOnAux, if_neg (by decide), if_neg (by decide)]
  rw [String.splitOnAux, if_pos (by decide)]
  decide

theorem readText_sum :
    (Sandbox.holding "a" "print 2147483647+1").readText "a" = .ok "print 2147483647+1" := by
  have hsize : ¬ 255 < "a".utf8ByteSize := by decide
  have hwalk : (Sandbox.holding "a" "print 2147483647+1").tree.walk true Sandbox.linkLimit []
      ["a"] = .ok ["a"] := by
    simp [Sandbox.FileTree.walk, Sandbox.holding, Sandbox.FileTree.get?, Sandbox.nameLimit, hsize,
      Sandbox.Location.isGone]
  have hlocate : (Sandbox.holding "a" "print 2147483647+1").tree.locateAs true [] "a" =
      .ok ["a"] := by
    rw [Sandbox.FileTree.locateAs, if_neg (by simp), if_neg (by decide),
      Sandbox.FileTree.resolve, if_neg (by decide), if_neg (by simp), names_singleLetter,
      ite_self]
    exact hwalk
  have hbytes : (Sandbox.holding "a" "print 2147483647+1").tree.read [] "a" =
      .ok (Text.utf8Bytes "print 2147483647+1") := by
    rw [Sandbox.FileTree.read, Sandbox.FileTree.find, Sandbox.FileTree.findAs, hlocate]
    rfl
  have htext : Text.exactText? (Text.utf8Bytes "print 2147483647+1") =
      some "print 2147483647+1" := by decide +kernel
  change ((Sandbox.holding "a" "print 2147483647+1").tree.read [] "a" >>= _) = _
  rw [hbytes, ok_bind, htext]
  rfl

/-- The bound form of a text whose only statement prints a sum that no word holds. -/
theorem analyze_sum :
    (analyze "print 2147483647+1").outcome =
      .ok (Source.bind [.print (.binary .add (.int 2147483647) (.int 1))]) := by
  have hscan : scan "print 2147483647+1" =
      .ok [⟨.print, "print", 0⟩, ⟨.number, "2147483647", 6⟩, ⟨.plus, "+", 16⟩,
        ⟨.number, "1", 17⟩, ⟨.eof, "", 18⟩] := by decide +kernel
  exact analyze_eq_ok.mpr ⟨_, _, hscan, (Source.parse_eq_read _).trans rfl, rfl⟩

theorem check_emit_agree_sum :
    (Sandbox.holding "a" "print 2147483647+1").readText "a" = .ok "print 2147483647+1" ∧
      (runWords (Sandbox.holding "a" "print 2147483647+1") ["check", "a"]).1 = 0 ∧
      (runWords (Sandbox.holding "a" "print 2147483647+1") ["emit-ir", "a", "--no-optimize"]).1 =
        0 ∧
      (runWords (Sandbox.holding "a" "print 2147483647+1") ["emit-ir", "a"]).1 = 1 ∧
      ∃ error, (compile {} "print 2147483647+1").outcome = .error (.unfoldable error) ∧
        ((∃ op left right, error = .overflow op left right) ∨
          ∃ value, error = .negationOverflow value) ∧
        (runWords (Sandbox.holding "a" "print 2147483647+1") ["emit-ir", "a"]).2.stderr =
          "" ++ ("Error: " ++ error.message ++ "\n") := by
  have hfile : CommandLine.shape "a" = .other "a" := by decide
  have hne := Sandbox.ne_empty_of_readText readText_sum
  have hagree := check_emit_agree Sandbox.screen_lawful _ readText_sum hfile rfl
  have hcheck := Sandbox.screen_lawful.ends_check_bound readText_sum rfl
    (CommandLine.read_check hne hfile) analyze_sum
  have hcompile : (compile {} "print 2147483647+1").outcome =
      .error (.unfoldable (.overflow .add 2147483647 1)) := by
    rw [outcome_compile_of_bound _ analyze_sum]
    rfl
  have hemit := Sandbox.screen_lawful.ends_emit_error readText_sum rfl
    (CommandLine.read_emit hne hfile {}) hcompile
  have hnonzero : (runWords (Sandbox.holding "a" "print 2147483647+1") ["emit-ir", "a"]).1 ≠ 0 :=
    fun hzero => absurd (hemit.code_eq.symm.trans hzero) (by decide)
  exact ⟨readText_sum, hcheck.code_eq, hagree.same_code.symm.trans hcheck.code_eq, hemit.code_eq,
    hagree.unfoldable hcheck.code_eq hnonzero⟩

end StraightLine
