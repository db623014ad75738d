import StraightLine.Proofs.FoldReduced
import StraightLine.Proofs.Scope

/-! No stage looks ahead. Binding and folding go through the statements in order, and what they hold
on to, the names in scope and the known constants, comes from the statements before. So what follows
a statement changes neither what becomes of it nor the fault that is found first. -/

namespace StraightLine

open Outcome

namespace Source

/-- What comes after some statements only adds to what they are bound to. -/
theorem bindFrom_append (scope : List String) (first second : List Stmt) :
    (bindFrom scope first).stmts <+: (bindFrom scope (first ++ second)).stmts ∧
      (bindFrom scope first).names <+: (bindFrom scope (first ++ second)).names ∧
      (bindFrom scope first).diagnostics <+: (bindFrom scope (first ++ second)).diagnostics := by
  induction first generalizing scope with
  | nil => exact ⟨List.nil_prefix, prefix_names scope second, List.nil_prefix⟩
  | cons stmt rest ih =>
      obtain ⟨hstmts, hnames, hdiagnostics⟩ := ih (stmt.scopeAfter scope)
      exact ⟨(List.prefix_cons_inj _).mpr hstmts, hnames,
        (List.prefix_append_right_inj _).mpr hdiagnostics⟩

end Source

namespace Bound

/-- The first statements of a program, with its names and messages. -/
def Program.take (count : Nat) (program : Program) : Program :=
  { program with stmts := program.stmts.take count }

/-- The first folded statements are the first statements folded. -/
theorem foldFrom_take {known after : Constants} {stmts folded : List Stmt}
    (h : foldFrom known stmts = .ok (folded, after)) (count : Nat) :
    ∃ between, foldFrom known (stmts.take count) = .ok (folded.take count, between) := by
  induction stmts generalizing known folded count with
  | nil =>
      cases h
      exact ⟨after, by simp [foldFrom]⟩
  | cons stmt rest ih =>
      obtain ⟨first, next, others, hstep, hothers, rfl⟩ := foldFrom_cons h
      cases count with
      | zero => exact ⟨known, rfl⟩
      | succ count =>
          obtain ⟨between, hbetween⟩ := ih hothers count
          refine ⟨between, ?_⟩
          simp only [List.take_succ_cons, foldFrom, hstep.eq_ok, ok_bind, hbetween, pure_eq_ok]

/-- Where folding fails in the first statements, it fails whatever follows them. -/
theorem foldFrom_eq_error_of_take {known : Constants} {stmts : List Stmt} {error : FoldError}
    {count : Nat} (h : foldFrom known (stmts.take count) = .error error) :
    foldFrom known stmts = .error error := by
  rw [← List.take_append_drop count stmts, foldFrom_append, h, error_bind]

namespace Program

variable {start program : Program} {count : Nat}

theorem fold_eq_error {error : FoldError} :
    program.fold = .error error ↔ foldFrom ∅ program.stmts = .error error := by
  constructor
  · intro h
    rcases bind_eq_error.mp h with hstmts | ⟨result, -, hnone⟩
    · exact hstmts
    · cases hnone
  · exact fold_of_error

theorem fold_eq_error_of_take (hstart : start.stmts = program.stmts.take count) {error : FoldError}
    (h : start.fold = .error error) : program.fold = .error error := by
  rw [fold_eq_error, hstart] at h
  exact fold_eq_error.mpr (foldFrom_eq_error_of_take h)

theorem take_stmts_fold (hstart : start.stmts = program.stmts.take count)
    {foldedStart folded : Folded} (h : start.fold = .ok foldedStart)
    (hprogram : program.fold = .ok folded) :
    folded.program.stmts.take count = foldedStart.program.stmts := by
  obtain ⟨first, hfirst, hfoldedStart⟩ := fold_eq_ok h
  obtain ⟨stmts, hstmts, hfolded⟩ := fold_eq_ok hprogram
  obtain ⟨between, hbetween⟩ := foldFrom_take hstmts count
  rw [hstart, hbetween] at hfirst
  cases hfirst
  rw [hfoldedStart, hfolded]

end Program

end Bound

/-- No stage looks ahead. The statements, names and messages of a bound program start with those of
any program that it starts with. Programs that agree on their first statements are folded alike up
to there: if these alone cannot be folded, neither program can, for the same reason; otherwise they
become in both what they become alone. -/
theorem bind_fold_noLookahead :
    (∀ first second : Source.Program,
      (Source.bind first).stmts <+: (Source.bind (first ++ second)).stmts ∧
        (Source.bind first).names <+: (Source.bind (first ++ second)).names ∧
        (Source.bind first).diagnostics <+: (Source.bind (first ++ second)).diagnostics) ∧
    ∀ (program other : Bound.Program) (count : Nat),
      program.stmts.take count = other.stmts.take count →
      (∀ error, (program.take count).fold = .error error →
        program.fold = .error error ∧ other.fold = .error error) ∧
      ∀ start folded folded', (program.take count).fold = .ok start →
        program.fold = .ok folded → other.fold = .ok folded' →
        folded.program.stmts.take count = folded'.program.stmts.take count ∧
          folded.program.stmts.take count = start.program.stmts := by
  constructor
  · intro first second
    exact Source.bindFrom_append [] first second
  · intro program other count hagree
    constructor
    · intro error h
      exact ⟨Bound.Program.fold_eq_error_of_take rfl h, Bound.Program.fold_eq_error_of_take hagree h⟩
    · intro start folded folded' hstart hfolded hfolded'
      have hprogram := Bound.Program.take_stmts_fold rfl hstart hfolded
      have hother := Bound.Program.take_stmts_fold hagree hstart hfolded'
      exact ⟨hprogram.trans hother.symm, hprogram⟩

/-- A variable that is assigned to again behind the first statements, and an overflow that comes
before another error. -/
theorem bind_fold_noLookahead_reassigned :
    let first : List Bound.Stmt := [.assign 0 (.int 3), .print (.binary .add (.var 0) (.var 1))]
    let failing : List Bound.Stmt := [.print (.binary .mul (.int 65536) (.int 32768))]
    let second : List Bound.Stmt := [.assign 0 (.int 4), .assign 1 (.var 0)]
    let third : List Bound.Stmt := [.print (.unary .minus (.int (-2147483648)))]
    (∃ folded folded', Bound.Program.fold ⟨first ++ second, [], []⟩ = .ok folded ∧
      Bound.Program.fold ⟨first, [], []⟩ = .ok folded' ∧
      folded.program.stmts.take 2 = folded'.program.stmts.take 2) ∧
    Bound.Program.fold ⟨failing ++ third, [], []⟩ = .error (.overflow .mul 65536 32768) := by
  intro first failing second third
  obtain ⟨folded, hfolded⟩ : ∃ folded, Bound.Program.fold ⟨first ++ second, [], []⟩ = .ok folded :=
    ⟨_, rfl⟩
  obtain ⟨folded', hfolded'⟩ : ∃ folded, Bound.Program.fold ⟨first, [], []⟩ = .ok folded := ⟨_, rfl⟩
  have hagree := (bind_fold_noLookahead.2 ⟨first ++ second, [], []⟩ ⟨first, [], []⟩ 2 rfl).2
  have herror := (bind_fold_noLookahead.2 ⟨failing ++ third, [], []⟩ ⟨failing, [], []⟩ 1 rfl).1
  exact ⟨⟨folded, folded', hfolded, hfolded', (hagree _ _ _ hfolded' hfolded hfolded').1⟩,
    (herror _ rfl).1⟩

end StraightLine
