import Mathlib.Data.List.Forall2
import StraightLine.Code.Cost
import StraightLine.Proofs.SingleAssignment
import StraightLine.Proofs.AssignedFirst

/-! Folding never makes code worse. Every rule of folding leaves an expression with no more
temporaries, no more divisions and no other variables than it had, and these decide what the code of
the expression costs, wherever its temporaries are counted from. -/

namespace StraightLine

namespace Code

variable {inner rest : Code} {last : Instr}

theorem divisions_append (first second : Code) :
    (first ++ second).divisions = first.divisions + second.divisions :=
  List.countP_append

theorem loads_append (first second : Code) :
    (first ++ second).loads = first.loads ++ second.loads :=
  List.filterMap_append

/-- Instructions that define temporaries belong to the statement that ends after them. -/
theorem statements_append (hinner : ∀ instr ∈ inner, instr.target?.isSome = true)
    (hlast : last.endsStatement = true) :
    statements (inner ++ last :: rest) = (inner ++ [last]) :: statements rest := by
  induction inner with
  | nil => simp [statements, hlast]
  | cons instr inner ih =>
      obtain ⟨hinstr, hothers⟩ := List.forall_mem_cons.mp hinner
      simp [statements, instr.endsStatement_eq_false hinstr, hinstr, ih hothers]

theorem statements_allocations (slots : List Nat) (rest : Code) :
    statements (slots.map .alloc ++ rest) = statements rest := by
  induction slots with
  | nil => rfl
  | cons slot slots ih => exact ih

end Code

namespace Bound

open Outcome

/-- The code is that of the statement, wherever its temporaries are counted from. -/
def Stmt.CodedBy (stmt : Stmt) (code : Code) : Prop :=
  ∃ used, code = stmt.code used

def Expr.divisions : Expr → Nat
  | .int _ => 0
  | .var _ => 0
  | .unary _ operand => operand.divisions
  | .binary op left right => left.divisions + right.divisions + if op = .div then 1 else 0

/-- An expression that needs no more temporaries and no more divisions than another. -/
structure Expr.NoLarger (expr than : Expr) : Prop where
  temps : expr.temps ≤ than.temps
  divisions : expr.divisions ≤ than.divisions

namespace Expr.NoLarger

variable {first second third : Expr}

theorem refl (expr : Expr) : expr.NoLarger expr :=
  ⟨Nat.le_refl _, Nat.le_refl _⟩

theorem trans (hfirst : first.NoLarger second) (hsecond : second.NoLarger third) :
    first.NoLarger third :=
  ⟨Nat.le_trans hfirst.temps hsecond.temps, Nat.le_trans hfirst.divisions hsecond.divisions⟩

theorem int (value : Int) (expr : Expr) : (Expr.int value).NoLarger expr :=
  ⟨expr.temps_pos, Nat.zero_le _⟩

theorem unary (sign : Sign) (h : first.NoLarger second) :
    (Expr.unary sign first).NoLarger (.unary sign second) := by
  refine ⟨?_, h.divisions⟩
  cases sign with
  | plus => exact h.temps
  | minus => exact Nat.add_le_add_right h.temps 2

theorem binary (op : Arith) {left right left' right' : Expr} (hleft : left.NoLarger left')
    (hright : right.NoLarger right') :
    (Expr.binary op left right).NoLarger (.binary op left' right') where
  temps := Nat.add_le_add_right (Nat.add_le_add hleft.temps hright.temps) 1
  divisions := Nat.add_le_add_right (Nat.add_le_add hleft.divisions hright.divisions) _

end Expr.NoLarger

theorem UnaryStep.noLarger {sign : Sign} {operand result : Expr}
    (h : UnaryStep sign operand result) : result.NoLarger (.unary sign operand) := by
  cases h with
  | plus operand => exact ⟨Nat.le_refl _, Nat.le_refl _⟩
  | negated hfits hneg => exact .int _ _
  | kept hliteral => exact .refl _

theorem BinaryStep.noLarger {op : Arith} {left right result : Expr}
    (h : BinaryStep op left right result) : result.NoLarger (.binary op left right) := by
  cases h with
  | unitRight left =>
      constructor
      · rw [Expr.temps, Nat.add_assoc]
        exact Nat.le_add_right _ _
      · rw [Expr.divisions, Nat.add_assoc]
        exact Nat.le_add_right _ _
  | unitLeft hop right =>
      constructor
      · rw [Expr.temps]
        omega
      · rw [Expr.divisions]
        omega
  | evaluated hdivisor hl hr hexact => exact .int _ _
  | kept hneutral hliterals => exact .refl _

/-- A folded expression needs no more temporaries and no more divisions than the expression. -/
theorem Expr.noLarger_fold {known : Constants} {expr folded : Expr}
    (h : expr.fold known = .ok folded) : folded.NoLarger expr := by
  induction expr generalizing folded with
  | int value =>
      cases h
      exact .refl _
  | var id =>
      rw [Expr.fold] at h
      split at h
      · cases h
        exact .int _ _
      · cases h
        exact .refl _
  | unary sign operand ih =>
      simp only [Expr.fold, bind_eq_ok] at h
      obtain ⟨result, hoperand, h⟩ := h
      exact (foldUnary_step h).noLarger.trans ((ih hoperand).unary sign)
  | binary op left right ihl ihr =>
      simp only [Expr.fold, bind_eq_ok] at h
      obtain ⟨l, hl, r, hr, h⟩ := h
      exact (foldBinary_step h).noLarger.trans ((ihl hl).binary op (ihr hr))

theorem Expr.length_code (expr : Expr) (used : Nat) : (expr.code used).length = expr.temps := by
  have htargets : (expr.code used).targets.length = (expr.code used).length :=
    List.filterMap_length_eq_length.mpr (expr.defines_code used)
  rw [← htargets, Expr.targets_code, List.length_range']

theorem Expr.divisions_code (expr : Expr) (used : Nat) :
    (expr.code used).divisions = expr.divisions := by
  induction expr generalizing used with
  | int value => rfl
  | var id => rfl
  | unary sign operand ih =>
      cases sign with
      | plus => exact ih used
      | minus =>
          rw [Expr.code, Code.divisions_append, ih]
          rfl
  | binary op left right ihl ihr =>
      rw [Expr.code, Code.divisions_append, Code.divisions_append, ihl, ihr, Expr.divisions]
      cases op <;> rfl

theorem Expr.loads_code (expr : Expr) (used : Nat) : (expr.code used).loads = expr.vars := by
  induction expr generalizing used with
  | int value => rfl
  | var id => rfl
  | unary sign operand ih =>
      cases sign with
      | plus => exact ih used
      | minus =>
          rw [Expr.code, Code.loads_append, ih]
          exact List.append_nil _
  | binary op left right ihl ihr =>
      rw [Expr.code, Code.loads_append, Code.loads_append, ihl, ihr]
      exact List.append_nil _

namespace Stmt

theorem endsStatement_effect (stmt : Stmt) (temp : Nat) :
    (stmt.effect temp).endsStatement = true := by
  cases stmt <;> rfl

theorem length_code (stmt : Stmt) (used : Nat) :
    (stmt.code used).length = stmt.value.temps + 1 := by
  rw [Stmt.code, List.length_append, Expr.length_code, List.length_singleton]

theorem divisions_code (stmt : Stmt) (used : Nat) :
    (stmt.code used).divisions = stmt.value.divisions := by
  rw [Stmt.code, Code.divisions_append, Expr.divisions_code]
  cases stmt <;> rfl

theorem loads_code (stmt : Stmt) (used : Nat) : (stmt.code used).loads = stmt.value.vars := by
  rw [Stmt.code, Code.loads_append, Expr.loads_code]
  cases stmt <;> exact List.append_nil _

end Stmt

/-- What the code of a statement costs depends on its expression only. -/
theorem StmtStep.noWorse_code {known after : Constants} {stmt folded : Stmt}
    (h : StmtStep known stmt folded after) (used used' : Nat) :
    (folded.code used').NoWorse (stmt.code used) := by
  have hlarger := Expr.noLarger_fold h.value_fold
  have hvars := Expr.vars_fold h.value_fold
  refine ⟨?_, ?_, ?_, ?_, ?_⟩
  · rw [Stmt.length_code, Stmt.length_code]
    exact Nat.add_le_add_right hlarger.temps 1
  · rw [Stmt.divisions_code, Stmt.divisions_code]
    exact hlarger.divisions
  · rw [Stmt.targets_code, Stmt.targets_code, List.length_range', List.length_range']
    exact hlarger.temps
  · rw [Stmt.loads_code, Stmt.loads_code]
    exact hvars.subset
  · intro slot
    rw [Stmt.loads_code, Stmt.loads_code]
    exact hvars.count_le slot

theorem StmtStep.target?_eq {known after : Constants} {stmt folded : Stmt}
    (h : StmtStep known stmt folded after) : folded.target? = stmt.target? := by
  cases h with
  | literal _ _ => rfl
  | assign _ _ => rfl
  | print _ => rfl

/-- The code of a statement is the first part of the code of the statements from it on. -/
theorem statements_codeFrom_cons (used : Nat) (stmt : Stmt) (rest : List Stmt) (tail : Code) :
    Code.statements (codeFrom used (stmt :: rest) ++ tail) =
      stmt.code used :: Code.statements (codeFrom (used + stmt.value.temps) rest ++ tail) := by
  have hcode : codeFrom used (stmt :: rest) ++ tail =
      stmt.value.code used ++
        stmt.effect (used + stmt.value.temps) :: (codeFrom (used + stmt.value.temps) rest ++ tail) := by
    simp [codeFrom, Stmt.code]
  rw [hcode, Code.statements_append (stmt.value.defines_code used) (stmt.endsStatement_effect _)]
  rfl

theorem Program.statements_code (program : Program) :
    program.code.statements = Code.statements (codeFrom 0 program.stmts ++ [.ret]) := by
  rw [Program.code, List.append_assoc, Code.statements_allocations]

theorem forall₂_statements_codeFrom (stmts : List Stmt) (used : Nat) :
    List.Forall₂ Stmt.CodedBy stmts (Code.statements (codeFrom used stmts ++ [.ret])) := by
  induction stmts generalizing used with
  | nil => exact .nil
  | cons stmt rest ih =>
      rw [statements_codeFrom_cons]
      exact .cons ⟨used, rfl⟩ (ih _)

/-- Statements are folded one by one, and none gets worse. -/
theorem foldFrom_noWorse {known after : Constants} {stmts folded : List Stmt}
    (h : foldFrom known stmts = .ok (folded, after)) (used used' : Nat) :
    folded.map Stmt.target? = stmts.map Stmt.target? ∧
      List.Forall₂ Code.NoWorse (Code.statements (codeFrom used' folded ++ [.ret]))
        (Code.statements (codeFrom used stmts ++ [.ret])) := by
  -- Temporaries saved by one statement move those of the next, so the two counts are independent.
  induction stmts generalizing known folded used used' with
  | nil =>
      cases h
      exact ⟨rfl, .nil⟩
  | cons stmt rest ih =>
      obtain ⟨first, between, others, hstep, hothers, rfl⟩ := foldFrom_cons h
      obtain ⟨htargets, hcodes⟩ :=
        ih hothers (used + stmt.value.temps) (used' + first.value.temps)
      rw [List.map_cons, List.map_cons, hstep.target?_eq, htargets, statements_codeFrom_cons,
        statements_codeFrom_cons]
      exact ⟨rfl, .cons (hstep.noWorse_code used used') hcodes⟩

namespace Program

/-- Folding never makes the code worse. A folded program has the same names and messages, and as many
statements of the same kinds that assign to the same variables; and the code of every statement of
the folded program is in no respect worse than the code of the statement that it was folded from. -/
theorem noWorse_fold (program : Program) {folded : Folded} (h : program.fold = .ok folded) :
    folded.program.names = program.names ∧
      folded.program.diagnostics = program.diagnostics ∧
      folded.program.stmts.map Stmt.target? = program.stmts.map Stmt.target? ∧
      List.Forall₂ Stmt.CodedBy program.stmts program.code.statements ∧
      List.Forall₂ Stmt.CodedBy folded.program.stmts folded.program.code.statements ∧
      List.Forall₂ Code.NoWorse folded.program.code.statements program.code.statements := by
  obtain ⟨stmts, hstmts, hprogram⟩ := program.fold_eq_ok h
  obtain ⟨htargets, hcodes⟩ := foldFrom_noWorse hstmts 0 0
  rw [hprogram, statements_code, statements_code]
  exact ⟨rfl, rfl, htargets, forall₂_statements_codeFrom _ _, forall₂_statements_codeFrom _ _, hcodes⟩

/-- A quotient whose divisor turns out to be one, and a sum with a negated zero. -/
theorem noWorse_fold_quotient :
    let program : Program :=
      ⟨[.assign 0 (.int 2), .assign 1 (.binary .add (.var 3) (.unary .minus (.int 0))),
          .print (.binary .div (.binary .mul (.var 1) (.var 1)) (.binary .div (.var 0) (.int 2)))],
        ["a", "b"], []⟩
    ∃ folded, program.fold = .ok folded ∧
      folded.program.stmts = [.assign 0 (.int 2), .assign 1 (.var 3),
        .print (.binary .mul (.var 1) (.var 1))] ∧
      Code.NoWorse [.load 2 3, .store 2 1]
        [.load 2 3, .copy 3 0, .copy 4 0, .arith .sub 5 4 3, .arith .add 6 2 5, .store 6 1] ∧
      Code.NoWorse [.load 3 1, .load 4 1, .arith .mul 5 3 4, .print 5]
        [.load 7 1, .load 8 1, .arith .mul 9 7 8, .load 10 0, .copy 11 2, .arith .div 12 10 11,
          .arith .div 13 9 12, .print 13] := by
  intro program
  have hcodes : program.code.statements = [[.copy 1 2, .store 1 0],
      [.load 2 3, .copy 3 0, .copy 4 0, .arith .sub 5 4 3, .arith .add 6 2 5, .store 6 1],
      [.load 7 1, .load 8 1, .arith .mul 9 7 8, .load 10 0, .copy 11 2, .arith .div 12 10 11,
        .arith .div 13 9 12, .print 13]] := rfl
  obtain ⟨folded, hfolded, hstmts, hfoldedCodes⟩ : ∃ folded, program.fold = .ok folded ∧
      folded.program.stmts = [.assign 0 (.int 2), .assign 1 (.var 3),
        .print (.binary .mul (.var 1) (.var 1))] ∧
      folded.program.code.statements = [[.copy 1 2, .store 1 0], [.load 2 3, .store 2 1],
        [.load 3 1, .load 4 1, .arith .mul 5 3 4, .print 5]] := ⟨_, rfl, rfl, rfl⟩
  obtain ⟨-, -, -, -, -, hworse⟩ := noWorse_fold program hfolded
  simp only [hcodes, hfoldedCodes, List.forall₂_cons] at hworse
  exact ⟨folded, hfolded, hstmts, hworse.2.1, hworse.2.2.1⟩

end Program

end Bound

end StraightLine
