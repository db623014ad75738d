import StraightLine.Bound.Run
import StraightLine.Proofs.FoldSteps

/-! Folding keeps what a program does. At every point of a run the constants that folding knows are
what the slots hold; so an expression and its folded form have one value or stop for one reason, a
statement and its folded form leave the same slots, and the constants known after it are again what
these slots hold. Nothing is assumed of the program: its variables need have no slots, and its
literals need not fit a word. -/

namespace StraightLine.Bound

open Outcome

variable {wraps : Bool}

/-- Every constant known is the word in its slot. -/
def Known (known : Constants) (slots : Slots) : Prop :=
  ∀ id value, known[id]? = some value → slots id = some (some (Word.ofLiteral value))

theorem Known.empty (slots : Slots) : Known ∅ slots := by
  intro id value h
  simp at h

theorem Known.load {known : Constants} {slots : Slots} (hknown : Known known slots) {id : Nat}
    {value : Int} (h : known[id]? = some value) : slots.load id = .ok (Word.ofLiteral value) := by
  rw [Slots.load, hknown id value h]

theorem Known.insert {known : Constants} {slots : Slots} (hknown : Known known slots) (id : Nat)
    (value : Int) :
    Known (known.insert id value) (slots.set id (some (Word.ofLiteral value))) := by
  intro other word h
  rw [Std.TreeMap.getElem?_insert] at h
  by_cases hother : other = id
  · subst hother
    simp only [Std.ReflCmp.compare_self, reduceIte, Option.some.injEq] at h
    simp [Slots.set, h]
  · have hne : compare id other ≠ .eq := by simpa using Ne.symm hother
    rw [if_neg hne] at h
    simpa [Slots.set, hother] using hknown other word h

theorem Known.erase {known : Constants} {slots : Slots} (hknown : Known known slots) (id : Nat)
    (content : Option Word) : Known (known.erase id) (slots.set id content) := by
  intro other word h
  rw [Std.TreeMap.getElem?_erase] at h
  by_cases hother : other = id
  · subst hother
    simp at h
  · have hne : compare id other ≠ .eq := by simpa using Ne.symm hother
    rw [if_neg hne] at h
    simpa [Slots.set, hother] using hknown other word h

theorem UnaryStep.eval {sign : Sign} {operand result : Expr} (slots : Slots)
    (h : UnaryStep sign operand result) :
    result.eval wraps slots = (Expr.unary sign operand).eval wraps slots := by
  cases h with
  | plus operand =>
      cases heval : operand.eval wraps slots <;> simp [Expr.eval, heval, Sign.run]
  | negated hfits hneg => simp [Expr.eval, Sign.run, Word.ofLiteral_neg]
  | kept hliteral => rfl

theorem BinaryStep.eval {op : Arith} {left right result : Expr} (slots : Slots)
    (h : BinaryStep op left right result) :
    result.eval wraps slots = (Expr.binary op left right).eval wraps slots := by
  cases h with
  | unitRight left =>
      cases heval : left.eval wraps slots with
      | ok word => simp [Expr.eval, heval, Arith.run_unit_right]
      | error stop => simp [Expr.eval, heval]
  | unitLeft hop right =>
      cases heval : right.eval wraps slots with
      | ok word => simp [Expr.eval, heval, Arith.run_unit_left hop]
      | error stop => simp [Expr.eval, heval]
  | evaluated hdivisor hl hr hexact =>
      simp [Expr.eval, Arith.run_ofLiteral hl hr hexact hdivisor]
  | kept hneutral hliterals => rfl

/-- An expression and its folded form have the same value, or stop for the same reason. -/
theorem Expr.eval_fold {known : Constants} {slots : Slots} (hknown : Known known slots)
    {expr folded : Expr} (h : expr.fold known = .ok folded) :
    folded.eval wraps slots = expr.eval wraps slots := by
  induction expr generalizing folded with
  | int value =>
      cases h
      rfl
  | var id =>
      simp only [Expr.fold] at h
      split at h
      · rename_i value hvalue
        cases h
        exact (hknown.load hvalue).symm
      · cases h
        rfl
  | unary sign operand ih =>
      simp only [Expr.fold, bind_eq_ok] at h
      obtain ⟨result, hoperand, h⟩ := h
      rw [(foldUnary_step h).eval, Expr.eval, ih hoperand, Expr.eval]
  | binary op left right ihl ihr =>
      simp only [Expr.fold, bind_eq_ok] at h
      obtain ⟨l, hl, r, hr, h⟩ := h
      rw [(foldBinary_step h).eval, Expr.eval, ihl hl, ihr hr, Expr.eval]

theorem Stmt.run_assign_eq_ok {id : Nat} {value : Expr} {slots slots' : Slots}
    {printed : Option Word} (h : (Stmt.assign id value).run wraps slots = .ok (slots', printed)) :
    ∃ word, value.eval wraps slots = .ok word ∧ slots' = slots.set id (some word) := by
  simp only [Stmt.run, bind_eq_ok] at h
  obtain ⟨word, hword, stored, hstored, h⟩ := h
  cases h
  exact ⟨word, hword, Slots.store_eq_ok hstored⟩

theorem StmtStep.run {known after : Constants} {slots : Slots} (hknown : Known known slots)
    {stmt folded : Stmt} (h : StmtStep known stmt folded after) :
    folded.run wraps slots = stmt.run wraps slots := by
  cases h with
  | literal hvalue hfits => rw [Stmt.run, Expr.eval_fold hknown hvalue, Stmt.run]
  | assign hvalue hliteral => rw [Stmt.run, Expr.eval_fold hknown hvalue, Stmt.run]
  | print hvalue => rw [Stmt.run, Expr.eval_fold hknown hvalue, Stmt.run]

/-- What is known after a statement is what the slots hold after it. -/
theorem StmtStep.known {known after : Constants} {slots slots' : Slots} {printed : Option Word}
    (hknown : Known known slots) {stmt folded : Stmt} (h : StmtStep known stmt folded after)
    (hrun : stmt.run wraps slots = .ok (slots', printed)) : Known after slots' := by
  cases h with
  | literal hvalue hfits =>
      obtain ⟨word, hword, rfl⟩ := Stmt.run_assign_eq_ok hrun
      rw [← Expr.eval_fold hknown hvalue] at hword
      cases hword
      exact hknown.insert _ _
  | assign hvalue hliteral =>
      obtain ⟨word, hword, rfl⟩ := Stmt.run_assign_eq_ok hrun
      exact hknown.erase _ _
  | print hvalue =>
      simp only [Stmt.run, bind_eq_ok] at hrun
      obtain ⟨word, hword, hrun⟩ := hrun
      cases hrun
      exact hknown

/-- Statements and their folded forms run alike wherever what is known holds. -/
theorem runFrom_foldFrom {known after : Constants} {slots : Slots} (hknown : Known known slots)
    {stmts folded : List Stmt} (h : foldFrom known stmts = .ok (folded, after)) :
    runFrom wraps slots folded = runFrom wraps slots stmts := by
  induction stmts generalizing known slots folded with
  | nil =>
      cases h
      rfl
  | cons stmt rest ih =>
      obtain ⟨first, between, others, hstep, hothers, rfl⟩ := foldFrom_cons h
      rw [runFrom, runFrom, hstep.run hknown]
      cases hrun : stmt.run wraps slots with
      | error stop => rfl
      | ok result =>
          obtain ⟨slots', printed⟩ := result
          exact congrArg (Run.after printed) (ih (hstep.known hknown hrun) hothers)

/-- Folding a program changes nothing that a run of it shows: the values printed, the statements
completed, what every variable holds at the end, and the reason for an early stop. This holds for
every program that folds, and whether the quotient that no word holds wraps around or stops. -/
theorem Program.run_fold (program : Program) (wraps : Bool) {folded : Folded}
    (h : program.fold = .ok folded) : folded.program.run wraps = program.run wraps := by
  obtain ⟨stmts, hstmts, hprogram⟩ := program.fold_eq_ok h
  rw [hprogram]
  exact runFrom_foldFrom (Known.empty _) hstmts

/-- A program with a literal that no word holds and a variable that has no slot. -/
theorem Program.run_fold_noSlot :
    ∃ folded,
      Program.fold ⟨[.assign 0 (.binary .mul (.int 6) (.int 7)), .print (.var 0),
        .print (.binary .div (.int 4294967303) (.var 5))], ["x"], []⟩ = .ok folded ∧
      folded.program.stmts = [.assign 0 (.int 42), .print (.int 42),
        .print (.binary .div (.int 4294967303) (.var 5))] ∧
      folded.program.run false = Program.run false
        ⟨[.assign 0 (.binary .mul (.int 6) (.int 7)), .print (.var 0),
          .print (.binary .div (.int 4294967303) (.var 5))], ["x"], []⟩ :=
  ⟨_, rfl, rfl, Program.run_fold _ false rfl⟩

end StraightLine.Bound
