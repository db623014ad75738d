import StraightLine.Compile
import StraightLine.Proofs.BindRun
import StraightLine.Proofs.CodeRun
import StraightLine.Proofs.Descent
import StraightLine.Proofs.FoldRun

/-! From text to code: what a successful compilation went through, and that the code it wrote does
what the program does. Reading the code, folding and binding each keep what a run shows, so nothing
is left to prove here but that they follow one another.

A run of the code finds each value under its own temporary because temporaries are counted without
bound. With a counter of 32 bits, `compile_run` is about texts whose program, as far as code is written
for it, needs fewer than `2 ^ 32` of them. -/

namespace StraightLine

open Outcome

/-- The program that code is written for: the folded one, or the bound one if folding is off. -/
inductive Prepared (options : Options) (bound : Bound.Program) : Bound.Program → Prop where
  | folded {folded : Bound.Folded} (hon : options.fold = true) (hfold : bound.fold = .ok folded) :
      Prepared options bound folded.program
  | plain (hoff : options.fold = false) : Prepared options bound bound

theorem foldIf_eq_ok {options : Options} {bound final : Bound.Program} :
    (foldIf options bound).outcome = .ok final ↔ Prepared options bound final := by
  unfold foldIf
  split
  · rename_i hon
    simp only [Traced.outcome_bind, Traced.outcome_mapError, Traced.outcome_silent, bind_eq_ok,
      mapError_eq_ok, Traced.outcome_report, Traced.outcome_pure]
    constructor
    · rintro ⟨folded, hfold, -, -, hfinal⟩
      cases hfinal
      exact .folded hon hfold
    · intro h
      cases h with
      | folded _ hfold => exact ⟨_, hfold, (), trivial, rfl⟩
      | plain hoff => exact absurd (hon.symm.trans hoff) (by decide)
  · rename_i hoff
    simp only [Traced.outcome_bind, Traced.outcome_report, Traced.outcome_pure, ok_bind,
      Except.ok.injEq]
    constructor
    · rintro rfl
      exact .plain (by simpa using hoff)
    · intro h
      cases h with
      | folded hon _ => exact absurd hon hoff
      | plain _ => rfl

/-- A bound program is compiled if no message forbids it and folding, if it is on, succeeds. -/
theorem compileBound_eq_ok {options : Options} {bound : Bound.Program} {ir : String} :
    (compileBound options bound).outcome = .ok ir ↔
      bound.hasErrors = false ∧ ∃ final, Prepared options bound final ∧ ir = final.code.render := by
  unfold compileBound
  split
  · rename_i herrors
    simp [herrors]
  · rename_i herrors
    simp only [Traced.outcome_bind, Traced.outcome_report, ok_bind, bind_eq_ok, foldIf_eq_ok,
      writeCode, Traced.outcome_pure, Except.ok.injEq]
    have hnone : bound.hasErrors = false := by simpa using herrors
    constructor
    · rintro ⟨final, hfinal, rfl⟩
      exact ⟨hnone, final, hfinal, rfl⟩
    · rintro ⟨-, final, hfinal, rfl⟩
      exact ⟨final, hfinal, rfl⟩

theorem outcome_compileBound_of_errors {options : Options} {bound : Bound.Program}
    (h : bound.hasErrors = true) :
    (compileBound options bound).outcome = .error (.rejected bound.diagnostics) := by
  rw [compileBound, if_pos h]
  rfl

theorem outcome_compileBound {options : Options} {bound : Bound.Program}
    (h : bound.hasErrors = false) :
    (compileBound options bound).outcome =
      (fun final => final.code.render) <$> (foldIf options bound).outcome := by
  rw [compileBound, if_neg (by simp [h])]
  simp only [Traced.outcome_bind, Traced.outcome_report, ok_bind, writeCode, Traced.outcome_pure]
  cases (foldIf options bound).outcome <;> rfl

theorem outcome_foldIf (options : Options) (bound : Bound.Program) :
    (foldIf options bound).outcome =
      if options.fold then (Bound.Folded.program <$> bound.fold).mapError .unfoldable
      else .ok bound := by
  unfold foldIf
  split
  · simp only [Traced.outcome_bind, Traced.outcome_mapError, Traced.outcome_silent,
      Traced.outcome_report, Traced.outcome_pure, ok_bind]
    cases bound.fold <;> rfl
  · rfl

theorem analyze_eq_ok {text : String} {bound : Bound.Program} :
    (analyze text).outcome = .ok bound ↔
      ∃ tokens program, scan text = .ok tokens ∧ Source.parse tokens = .ok program ∧
        bound = Source.bind program := by
  simp only [analyze, Traced.outcome_bind, Traced.outcome_silent, Traced.outcome_report, ok_bind,
    bind_eq_ok, Traced.outcome_pure, Except.ok.injEq]
  constructor
  · rintro ⟨tokens, hscan, program, hparse, rfl⟩
    exact ⟨tokens, program, hscan, hparse, rfl⟩
  · rintro ⟨tokens, program, hscan, hparse, rfl⟩
    exact ⟨tokens, hscan, program, hparse, rfl⟩

theorem outcome_compile_of_unreadable {text : String} {error : SyntaxError} (options : Options)
    (h : (analyze text).outcome = .error error) :
    (compile options text).outcome = .error (.unreadable error) := by
  simp only [compile, Traced.outcome_bind, Traced.outcome_mapError, h, mapError_error, error_bind]

/-- After the analysis the text is no longer looked at. -/
theorem outcome_compile_of_bound {text : String} {bound : Bound.Program} (options : Options)
    (h : (analyze text).outcome = .ok bound) :
    (compile options text).outcome = (compileBound options bound).outcome := by
  simp only [compile, Traced.outcome_bind, Traced.outcome_mapError, h, mapError_ok, ok_bind]

/-- What a successful compilation went through. -/
theorem compile_eq_ok {options : Options} {text ir : String} :
    (compile options text).outcome = .ok ir ↔
      ∃ tokens program final, scan text = .ok tokens ∧ Source.parse tokens = .ok program ∧
        (Source.bind program).hasErrors = false ∧
        Prepared options (Source.bind program) final ∧ ir = final.code.render := by
  simp only [compile, Traced.outcome_bind, Traced.outcome_mapError, bind_eq_ok, mapError_eq_ok,
    analyze_eq_ok, compileBound_eq_ok]
  constructor
  · rintro ⟨bound, ⟨tokens, program, hscan, hparse, rfl⟩, herrors, final, hfinal, rfl⟩
    exact ⟨tokens, program, final, hscan, hparse, herrors, hfinal, rfl⟩
  · rintro ⟨tokens, program, final, hscan, hparse, herrors, hfinal, rfl⟩
    exact ⟨_, ⟨tokens, program, hscan, hparse, rfl⟩, herrors, final, hfinal, rfl⟩

/-- Folded or not, the program that code is written for runs as the bound one. -/
theorem Prepared.run {options : Options} {bound final : Bound.Program} {wraps : Bool}
    (h : Prepared options bound final) : final.run wraps = bound.run wraps := by
  cases h with
  | folded _ hfold =>
      obtain ⟨stmts, hstmts, hprogram⟩ := Bound.Program.fold_eq_ok hfold
      rw [hprogram]
      exact Bound.runFrom_foldFrom (Bound.Known.empty _) hstmts
  | plain _ => rfl

namespace Source

variable {wraps : Bool} {program : Program}

theorem visible_run_bind (h : (bind program).hasErrors = false) :
    ((bind program).run wraps).visible = (run wraps program).visible :=
  (visible_runFrom_bindFrom (Agree.empty _) h).1

/-- The bound form of a program without faults stops early only for reasons that lie in the
values. -/
theorem stop_run_bind {stop : Stop Nat} (h : (bind program).hasErrors = false)
    (hstop : ((bind program).run wraps).stop = some stop) : stop.IsArithmetic wraps := by
  have hvisible : ((bind program).run wraps).visible.stop = (run wraps program).visible.stop :=
    congrArg Run.stop (visible_run_bind h)
  have hsource : (run wraps program).stop.map (Stop.map fun _ => ()) =
      some (stop.map fun _ => ()) := by
    calc
      _ = (run wraps program).visible.stop := rfl
      _ = ((bind program).run wraps).visible.stop := hvisible.symm
      _ = _ := by
        rw [Run.visible, hstop]
        rfl
  obtain ⟨source, hsome, hsame⟩ := Option.map_eq_some_iff.mp hsource
  have harith := (visible_runFrom_bindFrom (Agree.empty _) h).2 source hsome
  rw [← Stop.isArithmetic_map, hsame, Stop.isArithmetic_map] at harith
  exact harith

end Source

/-- Whatever text is compiled, folded or not, the code text is read back line by line and runs as
the program that the text spells: it prints the same values, and if it stops early, it does so after
as many statements and for the same reason, which lies in the values. Folding makes no difference
even to what the slots hold. -/
theorem compile_run (text : String) (wraps : Bool) :
    (∀ options ir, (compile options text).outcome = .ok ir →
      ∃ tokens program code, scan text = .ok tokens ∧ Source.parse tokens = .ok program ∧
        Code.read? ir = some code ∧
        (code.run wraps).visible = (Source.run wraps program).visible ∧
        ∀ stop, (code.run wraps).stop = some stop → stop.IsArithmetic wraps) ∧
    ∀ folded plain, (compile { fold := true } text).outcome = .ok folded →
      (compile { fold := false } text).outcome = .ok plain →
      ∃ code code', Code.read? folded = some code ∧ Code.read? plain = some code' ∧
        code.run wraps = code'.run wraps := by
  constructor
  · intro options ir h
    obtain ⟨tokens, program, final, hscan, hparse, herrors, hfinal, rfl⟩ := compile_eq_ok.mp h
    have hrun : final.code.run wraps = (Source.bind program).run wraps :=
      final.run_code.trans hfinal.run
    refine ⟨tokens, program, final.code, hscan, hparse, Code.read?_render _, ?_, ?_⟩
    · rw [hrun, Source.visible_run_bind herrors]
    · intro stop hstop
      rw [hrun] at hstop
      exact Source.stop_run_bind herrors hstop
  · intro folded plain hfolded hplain
    obtain ⟨tokens, program, final, hscan, hparse, -, hfinal, rfl⟩ := compile_eq_ok.mp hfolded
    obtain ⟨tokens', program', final', hscan', hparse', -, hfinal', rfl⟩ :=
      compile_eq_ok.mp hplain
    have htokens : tokens = tokens' := Except.ok.inj (hscan.symm.trans hscan')
    subst htokens
    have hprogram : program = program' := Except.ok.inj (hparse.symm.trans hparse')
    subst hprogram
    refine ⟨final.code, final'.code, Code.read?_render _, Code.read?_render _, ?_⟩
    rw [final.run_code, final'.run_code, hfinal.run, hfinal'.run]

/-- The tokens of a text that prints a value and then divides by zero. -/
theorem scan_division :
    scan "z=0\nprint 7\nprint 1/z" =
      .ok [⟨.identifier, "z", 0⟩, ⟨.equals, "=", 1⟩, ⟨.number, "0", 2⟩, ⟨.newline, "\n", 3⟩,
        ⟨.print, "print", 4⟩, ⟨.number, "7", 10⟩, ⟨.newline, "\n", 11⟩, ⟨.print, "print", 12⟩,
        ⟨.number, "1", 18⟩, ⟨.slash, "/", 19⟩, ⟨.identifier, "z", 20⟩, ⟨.eof, "", 21⟩] := by
  decide +kernel

theorem parse_division :
    Source.parse [⟨.identifier, "z", 0⟩, ⟨.equals, "=", 1⟩, ⟨.number, "0", 2⟩, ⟨.newline, "\n", 3⟩,
        ⟨.print, "print", 4⟩, ⟨.number, "7", 10⟩, ⟨.newline, "\n", 11⟩, ⟨.print, "print", 12⟩,
        ⟨.number, "1", 18⟩, ⟨.slash, "/", 19⟩, ⟨.identifier, "z", 20⟩, ⟨.eof, "", 21⟩] =
      .ok [.assign "z" (.int 0), .print (.int 7), .print (.binary .div (.int 1) (.var "z"))] :=
  (Source.parse_eq_read _).trans rfl

theorem compile_division (options : Options) :
    ∃ ir, (compile options "z=0\nprint 7\nprint 1/z").outcome = .ok ir := by
  cases options with
  | mk fold =>
      cases fold with
      | true =>
          exact ⟨_, compile_eq_ok.mpr
            ⟨_, _, _, scan_division, parse_division, rfl, .folded rfl rfl, rfl⟩⟩
      | false =>
          exact ⟨_, compile_eq_ok.mpr ⟨_, _, _, scan_division, parse_division, rfl, .plain rfl, rfl⟩⟩

theorem compile_run_division :
    (∃ ir code, (compile {} "z=0\nprint 7\nprint 1/z").outcome = .ok ir ∧
      Code.read? ir = some code ∧
      (code.run true).visible = ⟨[7], 2, (), some .zeroDivisor⟩) ∧
    ∃ folded plain code code',
      (compile { fold := true } "z=0\nprint 7\nprint 1/z").outcome = .ok folded ∧
      (compile { fold := false } "z=0\nprint 7\nprint 1/z").outcome = .ok plain ∧
      Code.read? folded = some code ∧ Code.read? plain = some code' ∧
      code.run true = code'.run true := by
  constructor
  · obtain ⟨ir, hir⟩ := compile_division {}
    obtain ⟨tokens, program, code, hscan, hparse, hread, hvisible, -⟩ :=
      (compile_run "z=0\nprint 7\nprint 1/z" true).1 {} ir hir
    cases scan_division.symm.trans hscan
    cases parse_division.symm.trans hparse
    exact ⟨ir, code, hir, hread, hvisible⟩
  · obtain ⟨folded, hfolded⟩ := compile_division { fold := true }
    obtain ⟨plain, hplain⟩ := compile_division { fold := false }
    obtain ⟨code, code', hread, hread', hrun⟩ :=
      (compile_run "z=0\nprint 7\nprint 1/z" true).2 folded plain hfolded hplain
    exact ⟨folded, plain, code, code', hfolded, hplain, hread, hread', hrun⟩

end StraightLine
