import Mathlib.Data.Set.Function
import StraightLine.Source.Rename
import StraightLine.Proofs.Compilation

/-! Compilation does not depend on names. As long as a renaming keeps the names of a program apart,
the variables of the renamed program get the same numbers, its table of names is the renamed table,
and its faults are the renamed faults; the code knows numbers only, so it is the same text. -/

namespace StraightLine

open Outcome

namespace Source

section Apart

variable {f : String → String} {kept : Set String} {scope : List String} {name : String}

theorem mem_map_rename (hf : Set.InjOn f kept) (hscope : ∀ other ∈ scope, other ∈ kept)
    (hname : name ∈ kept) : f name ∈ scope.map f ↔ name ∈ scope := by
  constructor
  · intro h
    obtain ⟨other, hother, hsame⟩ := List.mem_map.mp h
    have hequal : other = name := hf (hscope other hother) hname hsame
    rwa [← hequal]
  · exact List.mem_map_of_mem

/-- A name keeps its position when all names are replaced. -/
theorem idxOf?_map_rename (hf : Set.InjOn f kept) (hscope : ∀ other ∈ scope, other ∈ kept)
    (hname : name ∈ kept) : (scope.map f).idxOf? (f name) = scope.idxOf? name := by
  induction scope with
  | nil => rfl
  | cons other rest ih =>
      obtain ⟨hother, hrest⟩ := List.forall_mem_cons.mp hscope
      have hsame : (f other == f name) = (other == name) := by
        rw [Bool.eq_iff_iff, beq_iff_eq, beq_iff_eq]
        exact hf.eq_iff hother hname
      rw [List.map_cons, List.idxOf?_cons, List.idxOf?_cons, hsame, ih hrest]

theorem idxOf_map_rename (hf : Set.InjOn f kept) (hscope : ∀ other ∈ scope, other ∈ kept)
    (hname : name ∈ kept) : (scope.map f).idxOf (f name) = scope.idxOf name := by
  rw [List.idxOf_eq_getD_idxOf?, idxOf?_map_rename hf hscope hname, List.length_map,
    List.idxOf_eq_getD_idxOf?]

theorem declare_map_rename (hf : Set.InjOn f kept) (hscope : ∀ other ∈ scope, other ∈ kept)
    (hname : name ∈ kept) : declare (scope.map f) (f name) = (declare scope name).map f := by
  unfold declare
  by_cases hmem : name ∈ scope
  · rw [if_pos hmem, if_pos ((mem_map_rename hf hscope hname).mpr hmem)]
  · rw [if_neg hmem, if_neg (mt (mem_map_rename hf hscope hname).mp hmem), List.map_append]
    rfl

theorem mem_of_mem_declare (hscope : ∀ other ∈ scope, other ∈ kept) (hname : name ∈ kept) :
    ∀ other ∈ declare scope name, other ∈ kept := by
  intro other hother
  rcases mem_declare.mp hother with hmem | rfl
  · exact hscope other hmem
  · exact hname

/-- An expression is bound as before: names are looked up where they were. -/
theorem Expr.bind_rename (hf : Set.InjOn f kept) (hscope : ∀ other ∈ scope, other ∈ kept)
    {expr : Expr} (h : ∀ other ∈ expr.names, other ∈ kept) :
    (expr.rename f).bind (scope.map f) = expr.bind scope := by
  induction expr with
  | int value => rfl
  | var name =>
      have hname : name ∈ kept := h name (List.mem_singleton.mpr rfl)
      rw [Expr.rename, Expr.bind, Expr.bind, idxOf?_map_rename hf hscope hname]
  | unary sign operand ih => rw [Expr.rename, Expr.bind, Expr.bind, ih h]
  | binary op left right ihl ihr =>
      obtain ⟨hl, hr⟩ := List.forall_mem_append.mp h
      rw [Expr.rename, Expr.bind, Expr.bind, ihl hl, ihr hr]

/-- The faults are those of before, renamed. Whether a divisor is the literal zero is asked of the
bound divisor, which is the same. -/
theorem Expr.faults_rename (hf : Set.InjOn f kept) (hscope : ∀ other ∈ scope, other ∈ kept)
    {expr : Expr} (h : ∀ other ∈ expr.names, other ∈ kept) :
    (expr.rename f).faults (scope.map f) = (expr.faults scope).map (Fault.rename f) := by
  induction expr with
  | int value =>
      rw [Expr.rename, Expr.faults, Expr.faults, apply_ite (List.map (Fault.rename f))]
      rfl
  | var name =>
      have hname : name ∈ kept := h name (List.mem_singleton.mpr rfl)
      simp only [Expr.rename, Expr.faults, mem_map_rename hf hscope hname]
      rw [apply_ite (List.map (Fault.rename f))]
      rfl
  | unary sign operand ih => exact ih h
  | binary op left right ihl ihr =>
      obtain ⟨hl, hr⟩ := List.forall_mem_append.mp h
      simp only [Expr.rename, Expr.faults, Expr.bind_rename hf hscope hr, ihl hl, ihr hr,
        List.map_append, apply_ite (List.map (Fault.rename f))]
      rfl

theorem Stmt.value_rename (f : String → String) (stmt : Stmt) :
    (stmt.rename f).value = stmt.value.rename f := by
  cases stmt <;> rfl

theorem Stmt.mem_value_names {stmt : Stmt} (h : ∀ other ∈ stmt.names, other ∈ kept) :
    ∀ other ∈ stmt.value.names, other ∈ kept := by
  cases stmt with
  | assign name value => exact (List.forall_mem_cons.mp h).2
  | print value => exact h

theorem Stmt.bind_rename (hf : Set.InjOn f kept) (hscope : ∀ other ∈ scope, other ∈ kept)
    {stmt : Stmt} (h : ∀ other ∈ stmt.names, other ∈ kept) :
    (stmt.rename f).bind (scope.map f) = stmt.bind scope := by
  cases stmt with
  | assign name value =>
      obtain ⟨hname, hvalue⟩ := List.forall_mem_cons.mp h
      rw [Stmt.rename, Stmt.bind, Stmt.bind, Expr.bind_rename hf hscope hvalue,
        declare_map_rename hf hscope hname,
        idxOf_map_rename hf (mem_of_mem_declare hscope hname) hname]
  | print value => rw [Stmt.rename, Stmt.bind, Stmt.bind, Expr.bind_rename hf hscope h]

theorem Stmt.scopeAfter_rename (hf : Set.InjOn f kept) (hscope : ∀ other ∈ scope, other ∈ kept)
    {stmt : Stmt} (h : ∀ other ∈ stmt.names, other ∈ kept) :
    (stmt.rename f).scopeAfter (scope.map f) = (stmt.scopeAfter scope).map f := by
  cases stmt with
  | assign name value =>
      exact declare_map_rename hf hscope (List.forall_mem_cons.mp h).1
  | print value => rfl

theorem Stmt.mem_of_mem_scopeAfter (hscope : ∀ other ∈ scope, other ∈ kept) {stmt : Stmt}
    (h : ∀ other ∈ stmt.names, other ∈ kept) :
    ∀ other ∈ stmt.scopeAfter scope, other ∈ kept := by
  cases stmt with
  | assign name value => exact mem_of_mem_declare hscope (List.forall_mem_cons.mp h).1
  | print value => exact hscope

/-- Statements are bound as before, in the renamed scope. The scopes of the two runs correspond
after every statement. -/
theorem bindFrom_rename (hf : Set.InjOn f kept) (hscope : ∀ other ∈ scope, other ∈ kept)
    {stmts : List Stmt} (h : ∀ other ∈ stmts.flatMap Stmt.names, other ∈ kept) :
    (bindFrom (scope.map f) (stmts.map (Stmt.rename f))).stmts = (bindFrom scope stmts).stmts ∧
      (bindFrom (scope.map f) (stmts.map (Stmt.rename f))).names =
        (bindFrom scope stmts).names.map f ∧
      faultsFrom (scope.map f) (stmts.map (Stmt.rename f)) =
        (faultsFrom scope stmts).map (Fault.rename f) := by
  induction stmts generalizing scope with
  | nil => exact ⟨rfl, rfl, rfl⟩
  | cons stmt rest ih =>
      rw [List.flatMap_cons] at h
      obtain ⟨hstmt, hrest⟩ := List.forall_mem_append.mp h
      obtain ⟨hstmts, hnames, hfaults⟩ := ih (Stmt.mem_of_mem_scopeAfter hscope hstmt) hrest
      simp only [List.map_cons, bindFrom, faultsFrom, Stmt.scopeAfter_rename hf hscope hstmt,
        Stmt.bind_rename hf hscope hstmt, Stmt.value_rename,
        Expr.faults_rename hf hscope (Stmt.mem_value_names hstmt), List.map_append]
      exact ⟨congrArg _ hstmts, hnames, congrArg _ hfaults⟩

end Apart

end Source

/-- Code depends on the statements and on how many variables there are, not on what these are
called. -/
theorem outcome_compileBound_congr {options : Options} {bound bound' : Bound.Program}
    (hstmts : bound'.stmts = bound.stmts) (hnames : bound'.names.length = bound.names.length)
    (h : bound.hasErrors = false) (h' : bound'.hasErrors = false) :
    (compileBound options bound').outcome = (compileBound options bound).outcome := by
  rw [outcome_compileBound h, outcome_compileBound h', outcome_foldIf, outcome_foldIf]
  split
  · rw [Bound.Program.fold, Bound.Program.fold, hstmts]
    cases Bound.foldFrom ∅ bound.stmts with
    | error error => rfl
    | ok result =>
        simp only [ok_bind, pure_eq_ok, Except.map_ok, mapError_ok, Bound.Program.code, hnames]
  · simp only [Except.map_ok, Bound.Program.code, hstmts, hnames]

namespace Source

/-- What compiling a program and what compiling a renamed one comes to: the same code text, the same
error of folding, or the faults, which are renamed. -/
inductive SameOutcome (f : String → String) (faults : List Fault) :
    Except CompileError String → Except CompileError String → Prop where
  | code (ir : String) : SameOutcome f faults (.ok ir) (.ok ir)
  | unfoldable (error : Bound.FoldError) :
      SameOutcome f faults (.error (.unfoldable error)) (.error (.unfoldable error))
  | rejected : SameOutcome f faults (.error (.rejected (faults.map Fault.diagnostic)))
      (.error (.rejected ((faults.map (Fault.rename f)).map Fault.diagnostic)))

/-- The three parts of a bound program, for a renaming that keeps the names apart. -/
theorem Program.bound_rename {program : Program} {f : String → String}
    (h : Set.InjOn f {name | name ∈ program.names}) :
    (bind (program.rename f)).stmts = (bind program).stmts ∧
      (bind (program.rename f)).names = (bind program).names.map f ∧
      (program.rename f).faults = program.faults.map (Fault.rename f) := by
  have hscope : ∀ other ∈ ([] : List String), other ∈ {name | name ∈ program.names} := by simp
  exact bindFrom_rename h hscope (fun _ hother => hother)

/-- Errors come from faults, and everything after the errors have been looked at knows no names. -/
theorem Program.sameOutcome_rename {program : Program} {f : String → String}
    (h : Set.InjOn f {name | name ∈ program.names}) (options : Options) :
    SameOutcome f program.faults (compileBound options (bind program)).outcome
      (compileBound options (bind (program.rename f))).outcome := by
  obtain ⟨hstmts, hnames, hfaults⟩ := Program.bound_rename h
  have herrors : (bind (program.rename f)).hasErrors = (bind program).hasErrors := by
    rw [hasErrors_bind, hasErrors_bind, hfaults, List.isEmpty_map]
  cases hclean : (bind program).hasErrors with
  | true =>
      rw [outcome_compileBound_of_errors hclean,
        outcome_compileBound_of_errors (herrors.trans hclean), diagnostics_bind,
        diagnostics_bind, hfaults]
      exact .rejected
  | false =>
      have hlength : (bind (program.rename f)).names.length = (bind program).names.length := by
        rw [hnames, List.length_map]
      rw [outcome_compileBound_congr hstmts hlength hclean (herrors.trans hclean),
        outcome_compileBound hclean, outcome_foldIf]
      split
      · cases (bind program).fold with
        | ok folded => exact .code _
        | error error => exact .unfoldable error
      · exact .code _

/-- Names do not matter. If a renaming keeps the names of a program apart, the renamed program is
bound to the same statements, with the renamed table of names and a message for every renamed fault
in the same order; and whether folding is on or off, compiling it comes to the same. -/
theorem compileBound_bind_rename (program : Program) (f : String → String)
    (h : Set.InjOn f {name | name ∈ program.names}) :
    (bind (program.rename f)).stmts = (bind program).stmts ∧
      (bind (program.rename f)).names = (bind program).names.map f ∧
      (bind program).diagnostics = program.faults.map Fault.diagnostic ∧
      (bind (program.rename f)).diagnostics =
        (program.faults.map (Fault.rename f)).map Fault.diagnostic ∧
      ∀ options, SameOutcome f program.faults (compileBound options (bind program)).outcome
        (compileBound options (bind (program.rename f))).outcome := by
  obtain ⟨hstmts, hnames, hfaults⟩ := Program.bound_rename h
  refine ⟨hstmts, hnames, diagnostics_bind program, ?_, Program.sameOutcome_rename h⟩
  rw [diagnostics_bind, hfaults]

/-- A renaming that keeps two names apart and no others. -/
theorem compileBound_bind_rename_swapped :
    Set.InjOn (fun name => if name = "a" then "b" else "a")
        {name | name ∈ Program.names [.assign "a" (.int 1), .print (.var "b"),
          .print (.binary .div (.var "a") (.var "b"))]} ∧
      (bind (Program.rename (fun name => if name = "a" then "b" else "a")
        [.assign "a" (.int 1), .print (.var "b"),
          .print (.binary .div (.var "a") (.var "b"))])).stmts =
        [.assign 0 (.int 1), .print (.int 0), .print (.binary .div (.var 0) (.int 0))] ∧
      (bind (Program.rename (fun name => if name = "a" then "b" else "a")
        [.assign "a" (.int 1), .print (.var "b"),
          .print (.binary .div (.var "a") (.var "b"))])).diagnostics =
        [Fault.diagnostic (.undefinedVariable "a"), Fault.diagnostic (.undefinedVariable "a"),
          Fault.diagnostic .divisionByZero] := by
  have hapart : Set.InjOn (fun name => if name = "a" then "b" else "a")
      {name | name ∈ Program.names [.assign "a" (.int 1), .print (.var "b"),
        .print (.binary .div (.var "a") (.var "b"))]} := by
    have hnames : ∀ name ∈ Program.names [.assign "a" (.int 1), .print (.var "b"),
        .print (.binary .div (.var "a") (.var "b"))], name = "a" ∨ name = "b" := by decide
    intro left hleft right hright hsame
    rcases hnames left hleft with rfl | rfl
    · rcases hnames right hright with rfl | rfl
      · rfl
      · exact absurd hsame (by decide)
    · rcases hnames right hright with rfl | rfl
      · exact absurd hsame (by decide)
      · rfl
  obtain ⟨hstmts, -, -, hdiagnostics, -⟩ := compileBound_bind_rename _ _ hapart
  exact ⟨hapart, hstmts, hdiagnostics⟩

end Source

end StraightLine
