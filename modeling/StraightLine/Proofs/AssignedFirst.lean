import StraightLine.Proofs.FoldSteps
import StraightLine.Proofs.Scope

/-! Variables are assigned to before they are read. Binding makes every program so, whether it has
faults or not, since a name that nothing has been assigned to becomes a literal; and folding keeps
it, since it drops variables but never brings one in. -/

namespace StraightLine.Bound

open Outcome

/-- The variables of an expression from left to right. -/
def Expr.vars : Expr → List Nat
  | .int _ => []
  | .var id => [id]
  | .unary _ operand => operand.vars
  | .binary _ left right => left.vars ++ right.vars

/-- Statements in order after the variables `held` have been assigned to: a variable that is read is
one of these or has been assigned to in between, and every variable is one of the first `count`. -/
inductive AssignedFirst (count : Nat) : List Nat → List Stmt → Prop where
  | done (held : List Nat) : AssignedFirst count held []
  | assign {held : List Nat} {id : Nat} {value : Expr} {rest : List Stmt}
      (hvalue : value.vars ⊆ held) (hid : id < count)
      (hrest : AssignedFirst count (id :: held) rest) :
      AssignedFirst count held (.assign id value :: rest)
  | print {held : List Nat} {value : Expr} {rest : List Stmt} (hvalue : value.vars ⊆ held)
      (hrest : AssignedFirst count held rest) : AssignedFirst count held (.print value :: rest)

/-- A variable that is read has been held from the start or is assigned to by a statement before. -/
theorem AssignedFirst.exists_assign {count : Nat} {held : List Nat} {stmts : List Stmt}
    (h : AssignedFirst count held stmts) {position : Nat} {stmt : Stmt}
    (hstmt : stmts[position]? = some stmt) {id : Nat} (hid : id ∈ stmt.value.vars) :
    id ∈ held ∨ ∃ value, .assign id value ∈ stmts.take position := by
  induction h generalizing position with
  | done held => cases hstmt
  | @assign held target value rest hvalue _ _ ih =>
      cases position with
      | zero =>
          cases hstmt
          exact Or.inl (hvalue hid)
      | succ position =>
          rw [List.take_succ_cons]
          rcases ih hstmt with hheld | ⟨earlier, hearlier⟩
          · rcases List.mem_cons.mp hheld with rfl | hheld
            · exact Or.inr ⟨value, List.mem_cons_self⟩
            · exact Or.inl hheld
          · exact Or.inr ⟨earlier, List.mem_cons_of_mem _ hearlier⟩
  | print hvalue _ ih =>
      cases position with
      | zero =>
          cases hstmt
          exact Or.inl (hvalue hid)
      | succ position =>
          rw [List.take_succ_cons]
          rcases ih hstmt with hheld | ⟨earlier, hearlier⟩
          · exact Or.inl hheld
          · exact Or.inr ⟨earlier, List.mem_cons_of_mem _ hearlier⟩

theorem UnaryStep.vars_sublist {sign : Sign} {operand result : Expr}
    (h : UnaryStep sign operand result) : result.vars.Sublist operand.vars := by
  cases h with
  | plus operand => exact List.Sublist.refl _
  | negated hfits hneg => exact List.nil_sublist _
  | kept hliteral => exact List.Sublist.refl _

theorem BinaryStep.vars_sublist {op : Arith} {left right result : Expr}
    (h : BinaryStep op left right result) : result.vars.Sublist (left.vars ++ right.vars) := by
  cases h with
  | unitRight left => exact List.sublist_append_left _ _
  | unitLeft hop right => exact List.sublist_append_right _ _
  | evaluated hdivisor hl hr hexact => exact List.nil_sublist _
  | kept hneutral hliterals => exact List.Sublist.refl _

/-- Folding drops variables and keeps the others in their order. -/
theorem Expr.vars_fold {known : Constants} {expr folded : Expr}
    (h : expr.fold known = .ok folded) : folded.vars.Sublist expr.vars := by
  induction expr generalizing folded with
  | int value =>
      cases h
      exact List.Sublist.refl _
  | var id =>
      simp only [Expr.fold] at h
      split at h
      · cases h
        exact List.nil_sublist _
      · cases h
        exact List.Sublist.refl _
  | unary sign operand ih =>
      simp only [Expr.fold, bind_eq_ok] at h
      obtain ⟨result, hoperand, h⟩ := h
      exact (foldUnary_step h).vars_sublist.trans (ih hoperand)
  | binary op left right ihl ihr =>
      simp only [Expr.fold, bind_eq_ok] at h
      obtain ⟨l, hl, r, hr, h⟩ := h
      exact (foldBinary_step h).vars_sublist.trans ((ihl hl).append (ihr hr))

theorem AssignedFirst.fold {count : Nat} {held : List Nat} {known after : Constants}
    {stmts folded : List Stmt} (h : AssignedFirst count held stmts)
    (hfold : foldFrom known stmts = .ok (folded, after)) : AssignedFirst count held folded := by
  induction h generalizing known folded with
  | done held =>
      cases hfold
      exact .done held
  | assign hvalue hid _ ih =>
      obtain ⟨first, between, others, hstep, hothers, rfl⟩ := foldFrom_cons hfold
      cases hstep with
      | literal _ _ => exact .assign (List.nil_subset _) hid (ih hothers)
      | assign hfolded _ =>
          exact .assign (List.Subset.trans (Expr.vars_fold hfolded).subset hvalue) hid (ih hothers)
  | print hvalue _ ih =>
      obtain ⟨first, between, others, hstep, hothers, rfl⟩ := foldFrom_cons hfold
      cases hstep with
      | print hfolded =>
          exact .print (List.Subset.trans (Expr.vars_fold hfolded).subset hvalue) (ih hothers)

end StraightLine.Bound

namespace StraightLine.Source

theorem Expr.vars_bind_lt {scope : List String} (expr : Expr) :
    ∀ id ∈ (expr.bind scope).vars, id < scope.length := by
  induction expr with
  | int value => exact fun _ hid => absurd hid List.not_mem_nil
  | var name =>
      rw [Expr.bind]
      by_cases hname : name ∈ scope
      · rw [idxOf?_of_mem hname]
        intro id hid
        rw [List.mem_singleton.mp hid]
        exact List.idxOf_lt_length_of_mem hname
      · rw [List.idxOf?_eq_none_iff.mpr hname]
        exact fun _ hid => absurd hid List.not_mem_nil
  | unary sign operand ih => exact ih
  | binary op left right ihl ihr =>
      rw [Expr.bind]
      split
      · intro id hid
        rcases List.mem_append.mp hid with hid | hid
        · exact ihl id hid
        · exact ihr id hid
      · exact fun _ hid => absurd hid List.not_mem_nil

/-- The numbers in use after an assignment are the old ones and the number of its target. -/
theorem lt_length_declare {scope : List String} {name : String} {id : Nat}
    (h : id < (declare scope name).length) :
    id = (declare scope name).idxOf name ∨ id < scope.length := by
  unfold declare at h ⊢
  split
  · rename_i hname
    rw [if_pos hname] at h
    exact Or.inr h
  · rename_i hname
    rw [if_neg hname, List.length_append, List.length_singleton] at h
    rw [List.idxOf_append, if_neg hname, List.idxOf_cons_self]
    omega

/-- A bound program assigns to every variable before it reads it, if all variables in scope have
been assigned to. -/
theorem assignedFirst_bindFrom {scope : List String} {held : List Nat} (stmts : List Stmt)
    (hheld : ∀ id < scope.length, id ∈ held) :
    Bound.AssignedFirst (bindFrom scope stmts).names.length held (bindFrom scope stmts).stmts := by
  induction stmts generalizing scope held with
  | nil => exact .done held
  | cons stmt rest ih =>
      have hvalue : (stmt.value.bind scope).vars ⊆ held :=
        fun id hid => hheld id (stmt.value.vars_bind_lt id hid)
      cases stmt with
      | assign name value =>
          have hcount := length_le_names (declare scope name) rest
          refine .assign hvalue (Nat.lt_of_lt_of_le (idxOf_declare_lt scope name) hcount) (ih ?_)
          intro id hid
          rcases lt_length_declare hid with rfl | hid
          · exact List.mem_cons_self
          · exact List.mem_cons_of_mem _ (hheld id hid)
      | print value => exact .print hvalue (ih hheld)

theorem assignedFirst_bind (program : Program) :
    Bound.AssignedFirst (bind program).names.length [] (bind program).stmts :=
  assignedFirst_bindFrom program fun _ hid => absurd hid (Nat.not_lt_zero _)

end StraightLine.Source
