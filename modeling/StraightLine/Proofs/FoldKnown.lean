import StraightLine.Bound.Redex
import StraightLine.Proofs.FoldReduced

/-! What folding knows at a point of a program, read off the program it returns. A constant is known
exactly if the last assignment to its variable was folded to that literal: an assignment that was
folded to anything else takes back what was known before. Since no known variable is left in a
folded expression, no part of a folded program can be simplified where it stands. -/

namespace StraightLine.Bound

open Outcome

theorem Expr.literal?_eq_none {expr : Expr} (h : ∀ value, expr ≠ .int value) :
    expr.literal? = none := by
  cases expr with
  | int value => exact absurd rfl (h value)
  | _ => rfl

theorem lastAssigned?_cons (stmt : Stmt) (rest : List Stmt) (id : Nat) :
    lastAssigned? (stmt :: rest) id = (lastAssigned? rest id).or (stmt.assigned? id) := by
  rw [lastAssigned?, List.reverse_cons, List.findSome?_append, List.findSome?_singleton]
  rfl

/-- A variable that is assigned to is known afterwards if it was assigned a literal; what is known of
the other variables stays. -/
theorem StmtStep.known_eq {known after : Constants} {stmt folded : Stmt}
    (h : StmtStep known stmt folded after) (id : Nat) :
    after[id]? = (folded.assigned? id).elim known[id]? Expr.literal? := by
  cases h with
  | @literal target value word hvalue hfits =>
      rw [Std.TreeMap.getElem?_insert, Stmt.assigned?]
      by_cases htarget : target = id
      · subst htarget
        simp [Expr.literal?]
      · simp [htarget]
  | @assign target value folded hvalue hliteral =>
      rw [Std.TreeMap.getElem?_erase, Stmt.assigned?]
      by_cases htarget : target = id
      · subst htarget
        simp [Expr.literal?_eq_none hliteral]
      · simp [htarget]
  | print hvalue => rfl

/-- The constants after a run of folding are those that the folded statements assign last, and, for
variables that they do not assign to, those from before. -/
theorem known_foldFrom {known after : Constants} {stmts folded : List Stmt}
    (h : foldFrom known stmts = .ok (folded, after)) (id : Nat) :
    after[id]? = (lastAssigned? folded id).elim known[id]? Expr.literal? := by
  induction stmts generalizing known folded with
  | nil =>
      cases h
      rfl
  | cons stmt rest ih =>
      obtain ⟨first, between, others, hstep, hothers, rfl⟩ := foldFrom_cons h
      rw [ih hothers, hstep.known_eq, lastAssigned?_cons]
      -- A later assignment hides the first statement; without one, the first statement decides.
      cases lastAssigned? others id with
      | some value => rfl
      | none => rfl

/-- A folded program can be cut anywhere: what stands before the cut was folded from the start, and
what stands after it with the constants known at the cut. -/
theorem foldFrom_split {known after : Constants} {stmts before rest : List Stmt}
    (h : foldFrom known stmts = .ok (before ++ rest, after)) :
    ∃ stmts₁ stmts₂ between, stmts = stmts₁ ++ stmts₂ ∧
      foldFrom known stmts₁ = .ok (before, between) ∧
      foldFrom between stmts₂ = .ok (rest, after) := by
  -- The cut is given in what folding returned, so the induction is on that and not on `stmts`.
  induction before generalizing known stmts with
  | nil => exact ⟨[], stmts, known, rfl, rfl, h⟩
  | cons first before ih =>
      cases stmts with
      | nil => cases h
      | cons stmt stmts =>
          obtain ⟨folded, next, others, hstep, hothers, hcons⟩ := foldFrom_cons h
          cases hcons
          obtain ⟨stmts₁, stmts₂, between, rfl, hbefore, hrest⟩ := ih hothers
          refine ⟨stmt :: stmts₁, stmts₂, between, rfl, ?_, hrest⟩
          simp only [foldFrom, hstep.eq_ok, ok_bind, hbefore, pure_eq_ok]

theorem Expr.Reduced.of_mem_parts {known : Constants} {expr part : Expr}
    (h : expr.Reduced known) (hpart : part ∈ expr.parts) : part.Reduced known := by
  induction h with
  | int value =>
      rw [List.mem_singleton.mp hpart]
      exact .int value
  | var hunknown =>
      rw [List.mem_singleton.mp hpart]
      exact .var hunknown
  | minus hliteral hoperand ih =>
      rcases List.mem_cons.mp hpart with rfl | hpart
      · exact .minus hliteral hoperand
      · exact ih hpart
  | binary hright hleft hliterals hl hr ihl ihr =>
      rcases List.mem_cons.mp hpart with rfl | hpart
      · exact .binary hright hleft hliterals hl hr
      · rcases List.mem_append.mp hpart with hpart | hpart
        · exact ihl hpart
        · exact ihr hpart

theorem Expr.Reduced.of_binary {known : Constants} {op : Arith} {left right : Expr}
    (h : (Expr.binary op left right).Reduced known) :
    right ≠ .int op.unit ∧ (op = .add ∨ op = .mul → left ≠ .int op.unit) ∧
      ∀ l r, left = .int l → right = .int r → op = .div ∧ r = 0 := by
  cases h with
  | binary hright hleft hliterals hl hr => exact ⟨hright, hleft, hliterals⟩

/-- A reduced expression cannot be simplified, if the literals assigned last are known. -/
theorem Expr.Reduced.not_redex {known : Constants} {earlier : List Stmt} {expr : Expr}
    (h : expr.Reduced known)
    (hknown : ∀ id value, lastAssigned? earlier id = some (.int value) → known[id]? = some value) :
    ¬ expr.Redex earlier := by
  intro hredex
  cases hredex with
  | plus operand => cases h
  | negated value =>
      cases h with
      | minus hliteral hoperand => exact hliteral value rfl
  | literals hdivisor => exact hdivisor (h.of_binary.2.2 _ _ rfl rfl)
  | addZero left => exact h.of_binary.1 rfl
  | zeroAdd right => exact h.of_binary.2.1 (Or.inl rfl) rfl
  | subZero left => exact h.of_binary.1 rfl
  | mulOne left => exact h.of_binary.1 rfl
  | oneMul right => exact h.of_binary.2.1 (Or.inr rfl) rfl
  | divOne left => exact h.of_binary.1 rfl
  | known hlast =>
      cases h with
      | var hunknown =>
          rw [hknown _ _ hlast] at hunknown
          cases hunknown

theorem reduced_foldFrom {known after : Constants} {stmts rest : List Stmt} {stmt : Stmt}
    (h : foldFrom known stmts = .ok (stmt :: rest, after)) : stmt.value.Reduced known := by
  cases stmts with
  | nil => cases h
  | cons original originals =>
      obtain ⟨first, between, others, hstep, -, hcons⟩ := foldFrom_cons h
      cases hcons
      exact Expr.reduced_fold hstep.value_fold

/-- Folding leaves nothing to simplify. No part of an expression in a folded program has a form that
has a simpler one, and none is a variable whose last assignment before it, in the folded program,
has a literal on its right-hand side. -/
theorem Program.not_redex_fold (program : Program) {folded : Folded}
    (h : program.fold = .ok folded) :
    ∀ (position : Nat) (stmt : Stmt), folded.program.stmts[position]? = some stmt →
      ∀ part ∈ stmt.value.parts, ¬ part.Redex (folded.program.stmts.take position) := by
  intro position stmt hstmt part hpart
  obtain ⟨stmts, hstmts, hprogram⟩ := program.fold_eq_ok h
  rw [hprogram] at hstmt ⊢
  have hcut : stmts.take position ++ stmt :: stmts.drop (position + 1) = stmts := by
    obtain ⟨hposition, rfl⟩ := List.getElem?_eq_some_iff.mp hstmt
    rw [← List.drop_eq_getElem_cons, List.take_append_drop]
  rw [← hcut] at hstmts
  obtain ⟨originals, others, between, -, hbefore, hrest⟩ := foldFrom_split hstmts
  refine ((reduced_foldFrom hrest).of_mem_parts hpart).not_redex ?_
  intro id value hlast
  rw [known_foldFrom hbefore, hlast]
  rfl

/-- A variable that is known, then taken back, then known again, and a division by zero that keeps
its literals. -/
theorem Program.not_redex_fold_takenBack :
    ∃ folded,
      Program.fold ⟨[.assign 0 (.int 2), .assign 0 (.binary .mul (.var 0) (.unary .plus (.var 1))),
        .print (.binary .add (.var 0) (.binary .sub (.int 3) (.int 3))), .assign 0 (.int 0),
        .print (.unary .minus (.binary .div (.int 8) (.var 0)))], [], []⟩ = .ok folded ∧
      folded.program.stmts = [.assign 0 (.int 2), .assign 0 (.binary .mul (.int 2) (.var 1)),
        .print (.var 0), .assign 0 (.int 0),
        .print (.unary .minus (.binary .div (.int 8) (.int 0)))] ∧
      (∀ part ∈ (Expr.var 0).parts, ¬ part.Redex (folded.program.stmts.take 2)) ∧
      ∀ part ∈ (Expr.unary .minus (.binary .div (.int 8) (.int 0))).parts,
        ¬ part.Redex (folded.program.stmts.take 4) := by
  have hfold : ∃ folded,
      Program.fold ⟨[.assign 0 (.int 2), .assign 0 (.binary .mul (.var 0) (.unary .plus (.var 1))),
        .print (.binary .add (.var 0) (.binary .sub (.int 3) (.int 3))), .assign 0 (.int 0),
        .print (.unary .minus (.binary .div (.int 8) (.var 0)))], [], []⟩ = .ok folded ∧
      folded.program.stmts = [.assign 0 (.int 2), .assign 0 (.binary .mul (.int 2) (.var 1)),
        .print (.var 0), .assign 0 (.int 0),
        .print (.unary .minus (.binary .div (.int 8) (.int 0)))] := ⟨_, rfl, rfl⟩
  obtain ⟨folded, hfolded, hstmts⟩ := hfold
  have hnone := Program.not_redex_fold _ hfolded
  refine ⟨folded, hfolded, hstmts, ?_, ?_⟩
  · exact hnone 2 (.print (.var 0)) (by rw [hstmts]; rfl)
  · exact hnone 4 (.print (.unary .minus (.binary .div (.int 8) (.int 0)))) (by rw [hstmts]; rfl)

end StraightLine.Bound
