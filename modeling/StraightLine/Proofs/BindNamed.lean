import StraightLine.Bound.Named
import StraightLine.Proofs.BindPlaces

/-! Binding undone. With the names of its table in the place of its numbers, a bound program is the
program again, but for zeros where the program reads a variable that has no value yet or takes a
remainder. A program without faults has neither, and is recovered as it was. -/

namespace StraightLine.Source

theorem Operator.operator_arith {op : Operator} {arith : Arith} (h : op.arith? = some arith) :
    arith.operator = op := by
  cases op with
  | rem => cases h
  | _ =>
      cases h
      rfl

/-- Read back with a table that extends the scope, a bound expression has its names again. -/
theorem Expr.named?_bind {scope names : List String} (h : scope <+: names) (expr : Expr) :
    (expr.bind scope).named? names = some (expr.zeroed scope) := by
  induction expr with
  | int value => rfl
  | var name =>
      rw [Expr.bind, Expr.zeroed]
      by_cases hname : name ∈ scope
      · rw [if_pos hname, idxOf?_of_mem hname]
        simp only [Bound.Expr.named?, getElem?_idxOf_extended h hname]
        rfl
      · rw [if_neg hname, List.idxOf?_eq_none_iff.mpr hname]
        rfl
  | unary sign operand ih =>
      rw [Expr.bind, Expr.zeroed, Bound.Expr.named?, ih]
      rfl
  | binary op left right ihl ihr =>
      by_cases hop : op = .rem
      · subst hop
        rfl
      · obtain ⟨arith, harith⟩ := Operator.exists_arith hop
        rw [Expr.zeroed, if_neg hop, Expr.bind, harith]
        simp only [Bound.Expr.named?, ihl, ihr, Operator.operator_arith harith]
        rfl

/-- Read back, a bound statement has its target again, and its expression. -/
theorem Place.named?_bind {place : Place} {names : List String}
    (h : place.stmt.scopeAfter place.assigned <+: names) :
    (place.stmt.bind place.assigned).named? names = some place.zeroed := by
  obtain ⟨assigned, stmt⟩ := place
  cases stmt with
  | assign name value =>
      have hscope : assigned <+: names := (prefix_declare assigned name).trans h
      have htarget : names[(declare assigned name).idxOf name]? = some name :=
        getElem?_idxOf_extended h (mem_declare.mpr (Or.inr rfl))
      rw [Stmt.bind, Bound.Stmt.named?, htarget, Expr.named?_bind hscope]
      rfl
  | print value =>
      have hscope : assigned <+: names := h
      rw [Stmt.bind, Bound.Stmt.named?, Expr.named?_bind hscope]
      rfl

theorem mapM_named? {names : List String} {places : List Place}
    (h : ∀ place ∈ places, place.stmt.scopeAfter place.assigned <+: names) :
    (places.map fun place => place.stmt.bind place.assigned).mapM (Bound.Stmt.named? names) =
      some (places.map Place.zeroed) := by
  induction places with
  | nil => rfl
  | cons place rest ih =>
      obtain ⟨hplace, hrest⟩ := List.forall_mem_cons.mp h
      rw [List.map_cons, List.mapM_cons, Place.named?_bind hplace, ih hrest]
      rfl

theorem Expr.zeroed_eq {scope : List String} {expr : Expr} (h : expr.faults scope = []) :
    expr.zeroed scope = expr := by
  induction expr with
  | int value => rfl
  | var name => exact if_pos (mem_of_faults_var h)
  | unary sign operand ih => rw [Expr.zeroed, ih h]
  | binary op left right ihl ihr =>
      obtain ⟨hop, hleft, hright⟩ := faults_binary h
      rw [Expr.zeroed, if_neg hop, ihl hleft, ihr hright]

theorem Place.zeroed_eq {place : Place} (h : place.stmt.value.faults place.assigned = []) :
    place.zeroed = place.stmt := by
  obtain ⟨assigned, stmt⟩ := place
  cases stmt with
  | assign name value => exact congrArg _ (Expr.zeroed_eq h)
  | print value => exact congrArg _ (Expr.zeroed_eq h)

theorem Program.zeroed_eq {program : Program} (h : (bind program).diagnostics = []) :
    program.zeroed = program := by
  rw [diagnostics_bind, List.map_eq_nil_iff, faults_places, List.flatMap_eq_nil_iff] at h
  calc program.zeroed = program.places.map Place.stmt :=
        List.map_congr_left fun place hplace => Place.zeroed_eq (h place hplace)
    _ = program := map_stmt_places program

/-- Every bound program can be read back, targets and variables alike, and is then the program with
a zero for each variable that no statement before assigns to and for each outermost remainder, and
nothing else changed. If there are no messages about it, it is the program itself. -/
theorem named?_bind_eq_zeroed (program : Program) :
    (bind program).named? = some program.zeroed ∧
      ((bind program).diagnostics = [] → (bind program).named? = some program) := by
  have hnamed : (bind program).named? = some program.zeroed := by
    rw [Bound.Program.named?, stmts_bind]
    exact mapM_named? fun place hplace => scopeAfter_prefix_names hplace
  refine ⟨hnamed, fun hdiagnostics => ?_⟩
  rw [hnamed, Program.zeroed_eq hdiagnostics]

/-- A program with a variable that is read too early and two remainders one inside the other, and a
program without faults. -/
theorem named?_bind_eq_zeroed_remainder :
    (bind [.assign "x" (.unary .minus (.var "x")),
        .print (.binary .sub (.var "x")
          (.binary .rem (.var "x") (.binary .rem (.var "y") (.int 2))))]).named? =
        some [.assign "x" (.unary .minus (.int 0)),
          .print (.binary .sub (.var "x") (.int 0))] ∧
      (bind [.assign "a" (.int 7), .assign "b" (.var "a"),
        .assign "a" (.binary .div (.var "a") (.var "b"))]).diagnostics = [] ∧
      (bind [.assign "a" (.int 7), .assign "b" (.var "a"),
        .assign "a" (.binary .div (.var "a") (.var "b"))]).named? =
        some [.assign "a" (.int 7), .assign "b" (.var "a"),
          .assign "a" (.binary .div (.var "a") (.var "b"))] :=
  ⟨(named?_bind_eq_zeroed _).1, rfl, (named?_bind_eq_zeroed _).2 rfl⟩

end StraightLine.Source
