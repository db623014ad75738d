import Mathlib.Data.List.Basic
import StraightLine.Source.Bind
import StraightLine.Proofs.Outcome

/-! The variables in scope while a program is bound. A name keeps its number once it has one, a new
name gets the next number, and the names at the end extend those at every point before. The messages
about a program are its faults in order, and every one of them is an error. -/

namespace StraightLine.Source

theorem idxOf?_of_mem {scope : List String} {name : String} (h : name ∈ scope) :
    scope.idxOf? name = some (scope.idxOf name) := by
  obtain ⟨id, hid⟩ := Option.isSome_iff_exists.mp (List.isSome_idxOf?.mpr h)
  rw [List.idxOf_eq_getD_idxOf?, hid, Option.getD_some]

theorem mem_declare {scope : List String} {name other : String} :
    other ∈ declare scope name ↔ other ∈ scope ∨ other = name := by
  unfold declare
  split
  · rename_i hname
    constructor
    · exact Or.inl
    · rintro (hother | rfl)
      · exact hother
      · exact hname
  · rw [List.mem_append, List.mem_singleton]

theorem idxOf_declare {scope : List String} {other : String} (h : other ∈ scope) (name : String) :
    (declare scope name).idxOf other = scope.idxOf other := by
  unfold declare
  split
  · rfl
  · rw [List.idxOf_append, if_pos h]

theorem idxOf_declare_lt (scope : List String) (name : String) :
    (declare scope name).idxOf name < (declare scope name).length :=
  List.idxOf_lt_length_of_mem (mem_declare.mpr (Or.inr rfl))

theorem prefix_declare (scope : List String) (name : String) : scope <+: declare scope name := by
  unfold declare
  split
  · exact List.prefix_refl scope
  · exact List.prefix_append scope [name]

/-- The names at the end extend those in scope. -/
theorem prefix_names (scope : List String) (stmts : List Stmt) :
    scope <+: (bindFrom scope stmts).names := by
  induction stmts generalizing scope with
  | nil => exact List.prefix_refl scope
  | cons stmt rest ih =>
      refine List.IsPrefix.trans ?_ (ih (stmt.scopeAfter scope))
      cases stmt with
      | assign name value => exact prefix_declare scope name
      | print value => exact List.prefix_refl scope

theorem length_le_names (scope : List String) (stmts : List Stmt) :
    scope.length ≤ (bindFrom scope stmts).names.length :=
  (prefix_names scope stmts).length_le

/-- A program has no errors when no statement has a fault where it stands. -/
theorem hasErrors_bindFrom_cons {scope : List String} {stmt : Stmt} {rest : List Stmt} :
    (bindFrom scope (stmt :: rest)).hasErrors = false ↔
      stmt.value.faults scope = [] ∧
        (bindFrom (stmt.scopeAfter scope) rest).hasErrors = false := by
  simp only [bindFrom, Bound.Program.hasErrors, List.any_append, Bool.or_eq_false_iff]
  refine and_congr_left fun _ => ?_
  cases stmt.value.faults scope with
  | nil => simp
  | cons fault faults => simp [Fault.diagnostic, Diagnostic.isError]

theorem faults_binary {scope : List String} {op : Operator} {left right : Expr}
    (h : (Expr.binary op left right).faults scope = []) :
    op ≠ .rem ∧ left.faults scope = [] ∧ right.faults scope = [] := by
  simp only [Expr.faults, List.append_eq_nil_iff] at h
  obtain ⟨⟨⟨hop, hleft⟩, hright⟩, -⟩ := h
  refine ⟨?_, hleft, hright⟩
  rintro rfl
  cases hop

theorem mem_of_faults_var {scope : List String} {name : String}
    (h : (Expr.var name).faults scope = []) : name ∈ scope := by
  by_contra hname
  rw [Expr.faults, if_neg hname] at h
  cases h

theorem Operator.exists_arith {op : Operator} (h : op ≠ .rem) : ∃ arith, op.arith? = some arith := by
  cases op with
  | rem => exact absurd rfl h
  | _ => exact ⟨_, rfl⟩

/-- The faults of statements that run when the variables of `scope` exist. -/
def faultsFrom (scope : List String) : List Stmt → List Fault
  | [] => []
  | stmt :: rest => stmt.value.faults scope ++ faultsFrom (stmt.scopeAfter scope) rest

/-- The faults of a program, statement by statement. -/
def Program.faults (program : Program) : List Fault :=
  faultsFrom [] program

theorem diagnostics_bindFrom (scope : List String) (stmts : List Stmt) :
    (bindFrom scope stmts).diagnostics = (faultsFrom scope stmts).map Fault.diagnostic := by
  induction stmts generalizing scope with
  | nil => rfl
  | cons stmt rest ih =>
      simp only [bindFrom, faultsFrom, List.map_append]
      rw [ih]

theorem diagnostics_bind (program : Program) :
    (bind program).diagnostics = program.faults.map Fault.diagnostic :=
  diagnostics_bindFrom [] program

/-- Every fault is an error, so a program has errors exactly if it has faults. -/
theorem hasErrors_bind (program : Program) :
    (bind program).hasErrors = !program.faults.isEmpty := by
  rw [Bound.Program.hasErrors, diagnostics_bind, List.any_map]
  cases program.faults with
  | nil => rfl
  | cons fault faults => rfl

end StraightLine.Source
