import StraightLine.Proofs.FoldSteps

/-! What folding leaves behind. An expression is reduced where some constants are known if no rule
of folding finds anything to do in it; folding makes every expression reduced, and finds a reduced
one as it leaves it. A program that has been folded meets the same constants at the same statements
when it is folded again, so the second time neither fails nor changes anything. -/

namespace StraightLine.Bound

open Outcome

/-- Nothing in an expression is left to fold: no plus sign, no negated literal, no variable that is
known, no operand that changes nothing, and no operation on two literals but a division by zero.
Literals themselves may have any value. -/
inductive Expr.Reduced (known : Constants) : Expr → Prop where
  | int (value : Int) : Reduced known (.int value)
  | var {id : Nat} (hunknown : known[id]? = none) : Reduced known (.var id)
  | minus {operand : Expr} (hliteral : ∀ value, operand ≠ .int value)
      (hoperand : Reduced known operand) : Reduced known (.unary .minus operand)
  | binary {op : Arith} {left right : Expr} (hright : right ≠ .int op.unit)
      (hleft : op = .add ∨ op = .mul → left ≠ .int op.unit)
      (hliterals : ∀ l r, left = .int l → right = .int r → op = .div ∧ r = 0)
      (hl : Reduced known left) (hr : Reduced known right) : Reduced known (.binary op left right)

/-- No operand is dropped exactly if the unit stands on neither side where it could be. -/
theorem neutral?_eq_none {op : Arith} {left right : Expr} :
    neutral? op left right = none ↔
      right ≠ .int op.unit ∧ (op = .add ∨ op = .mul → left ≠ .int op.unit) := by
  -- Only the unit on the right is looked for with every operation.
  by_cases hright : right = .int op.unit
  · cases op <;> simp_all [neutral?, Arith.unit]
  · cases op <;> simp_all [neutral?, Arith.unit]

theorem foldUnary_minus {operand : Expr} (h : ∀ value, operand ≠ .int value) :
    foldUnary .minus operand = .ok (.unary .minus operand) := by
  cases operand with
  | int value => exact absurd rfl (h value)
  | _ => rfl

/-- An operation stays as it is if no operand can be dropped and it is not carried out. -/
theorem foldBinary_kept {op : Arith} {left right : Expr} (hneutral : neutral? op left right = none)
    (hliterals : ∀ l r, left = .int l → right = .int r → op = .div ∧ r = 0) :
    foldBinary op left right = .ok (.binary op left right) := by
  simp only [foldBinary, hneutral]
  split
  · rename_i l r
    rw [if_pos (hliterals l r rfl rfl)]
  · rfl

theorem UnaryStep.reduced {known : Constants} {sign : Sign} {operand result : Expr}
    (h : UnaryStep sign operand result) (hoperand : operand.Reduced known) :
    result.Reduced known := by
  cases h with
  | plus operand => exact hoperand
  | negated hfits hneg => exact .int _
  | kept hliteral => exact .minus hliteral hoperand

theorem BinaryStep.reduced {known : Constants} {op : Arith} {left right result : Expr}
    (h : BinaryStep op left right result) (hl : left.Reduced known) (hr : right.Reduced known) :
    result.Reduced known := by
  cases h with
  | unitRight left => exact hl
  | unitLeft hop right => exact hr
  | evaluated hdivisor hleft hright hexact => exact .int _
  | kept hneutral hliterals =>
      obtain ⟨hright, hleft⟩ := neutral?_eq_none.mp hneutral
      exact .binary hright hleft hliterals hl hr

/-- Folding leaves nothing to fold with the same constants. -/
theorem Expr.reduced_fold {known : Constants} {expr result : Expr}
    (h : expr.fold known = .ok result) : result.Reduced known := by
  induction expr generalizing result with
  | int value =>
      cases h
      exact .int value
  | var id =>
      rw [Expr.fold] at h
      split at h
      · cases h
        exact .int _
      · rename_i hunknown
        cases h
        exact .var hunknown
  | unary sign operand ih =>
      simp only [Expr.fold, bind_eq_ok] at h
      obtain ⟨folded, hfolded, hresult⟩ := h
      exact (foldUnary_step hresult).reduced (ih hfolded)
  | binary op left right ihl ihr =>
      simp only [Expr.fold, bind_eq_ok] at h
      obtain ⟨l, hl, r, hr, hresult⟩ := h
      exact (foldBinary_step hresult).reduced (ihl hl) (ihr hr)

theorem Expr.Reduced.fold_eq {known : Constants} {expr : Expr} (h : expr.Reduced known) :
    expr.fold known = .ok expr := by
  induction h with
  | int value => rfl
  | var hunknown => rw [Expr.fold, hunknown]
  | minus hliteral hoperand ih =>
      rw [Expr.fold, ih, ok_bind]
      exact foldUnary_minus hliteral
  | binary hright hleft hliterals hl hr ihl ihr =>
      rw [Expr.fold, ihl, ihr, ok_bind, ok_bind]
      exact foldBinary_kept (neutral?_eq_none.mpr ⟨hright, hleft⟩) hliterals

theorem assigned_literal {known : Constants} (id : Nat) {word : Int} (h : FitsWord word) :
    assigned known id (.int word) = .ok (known.insert id word) := by
  rw [assigned, checkWord_eq_ok.mpr ⟨h, rfl⟩, Except.map_ok]

theorem assigned_of_ne_int {known : Constants} (id : Nat) {value : Expr}
    (h : ∀ word, value ≠ .int word) : assigned known id value = .ok (known.erase id) := by
  cases value with
  | int word => exact absurd rfl (h word)
  | _ => rfl

theorem StmtStep.eq_ok {known after : Constants} {stmt folded : Stmt}
    (h : StmtStep known stmt folded after) : stmt.fold known = .ok (folded, after) := by
  cases h with
  | literal hvalue hfits =>
      rw [Stmt.fold, hvalue, ok_bind, assigned_literal _ hfits]
      rfl
  | assign hvalue hliteral =>
      rw [Stmt.fold, hvalue, ok_bind, assigned_of_ne_int _ hliteral]
      rfl
  | print hvalue =>
      rw [Stmt.fold, hvalue]
      rfl

/-- A folded statement, folded where it was folded, is the same and leaves the same known. -/
theorem StmtStep.fold_eq {known after : Constants} {stmt folded : Stmt}
    (h : StmtStep known stmt folded after) : folded.fold known = .ok (folded, after) := by
  refine StmtStep.eq_ok ?_
  cases h with
  | literal hvalue hfits => exact .literal (Expr.reduced_fold hvalue).fold_eq hfits
  | assign hvalue hliteral => exact .assign (Expr.reduced_fold hvalue).fold_eq hliteral
  | print hvalue => exact .print (Expr.reduced_fold hvalue).fold_eq

theorem foldFrom_foldFrom {known after : Constants} {stmts folded : List Stmt}
    (h : foldFrom known stmts = .ok (folded, after)) :
    foldFrom known folded = .ok (folded, after) := by
  -- Both passes reach every statement with the same constants, so the step lemma applies to each.
  induction stmts generalizing known folded with
  | nil =>
      cases h
      rfl
  | cons stmt rest ih =>
      obtain ⟨first, between, others, hstep, hothers, rfl⟩ := foldFrom_cons h
      simp only [foldFrom, hstep.fold_eq, ok_bind, ih hothers, pure_eq_ok]

/-- A folded program folds to itself, with the same constants known at its end, whatever numbers
and literals the program had. -/
theorem Program.fold_fold (program : Program) {folded : Folded} (h : program.fold = .ok folded) :
    folded.program.fold = .ok folded := by
  obtain ⟨stmts, hstmts, hprogram⟩ := program.fold_eq_ok h
  have hagain : foldFrom ∅ folded.program.stmts = .ok (folded.program.stmts, folded.known) := by
    rw [hprogram]
    exact foldFrom_foldFrom hstmts
  exact Program.fold_of_ok hagain

/-- A program whose literals fit no word, with a variable that is known, then unknown, and a
division by zero. -/
theorem Program.fold_fold_outOfRange :
    ∃ folded,
      Program.fold ⟨[.print (.int 9223372036854775807), .assign 7 (.int 0),
        .print (.binary .div (.int 4294967296) (.var 7)),
        .assign 7 (.binary .add (.var 7) (.unary .plus (.var 3))),
        .print (.binary .mul (.int (-1)) (.var 7))], [], []⟩ = .ok folded ∧
      folded.program.stmts = [.print (.int 9223372036854775807), .assign 7 (.int 0),
        .print (.binary .div (.int 4294967296) (.int 0)), .assign 7 (.var 3),
        .print (.binary .mul (.int (-1)) (.var 7))] ∧
      folded.program.fold = .ok folded :=
  ⟨_, rfl, rfl, Program.fold_fold
    ⟨[.print (.int 9223372036854775807), .assign 7 (.int 0),
      .print (.binary .div (.int 4294967296) (.var 7)),
      .assign 7 (.binary .add (.var 7) (.unary .plus (.var 3))),
      .print (.binary .mul (.int (-1)) (.var 7))], [], []⟩ rfl⟩

end StraightLine.Bound
