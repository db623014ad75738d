import StraightLine.Proofs.FoldSteps
import StraightLine.Proofs.Scope

/-! Literals in range stay in range. What folding makes of a program whose literals all fit a word
has only such literals again, and so do the constants known on the way; where folding fails, it is
because of a result that no word holds, never because of a literal. A program without faults is
bound to such a program. -/

namespace StraightLine.Bound

open Outcome

def Expr.Fits : Expr → Prop
  | .int value => FitsWord value
  | .var _ => True
  | .unary _ operand => operand.Fits
  | .binary _ left right => left.Fits ∧ right.Fits

def Constants.Fits (known : Constants) : Prop :=
  ∀ (id : Nat) (value : Int), known[id]? = some value → FitsWord value

/-- The errors that have nothing to do with literals out of range: the operands fit a word, and the
result does not. -/
inductive FoldError.Exceeds : FoldError → Prop where
  | overflow {op : Arith} {left right : Int} (hl : FitsWord left) (hr : FitsWord right)
      (hexact : ¬ FitsWord (op.exact left right)) : Exceeds (.overflow op left right)
  | negationOverflow {value : Int} (hfits : FitsWord value) (hneg : ¬ FitsWord (-value)) :
      Exceeds (.negationOverflow value)

/-- Folding ended in a value with the property, or in an error that lies in a result. -/
def Settles {α : Type} (property : α → Prop) : Except FoldError α → Prop
  | .ok a => property a
  | .error e => e.Exceeds

theorem Settles.bind {α β : Type} {first : Except FoldError α} {next : α → Except FoldError β}
    {property : α → Prop} {property' : β → Prop} (hfirst : Settles property first)
    (hnext : ∀ a, property a → Settles property' (next a)) :
    Settles property' (first >>= next) := by
  cases first with
  | ok a => exact hnext a hfirst
  | error e => exact hfirst

theorem negate_of_fits {value : Int} (h : FitsWord value) :
    negate value =
      if FitsWord (-value) then .ok (-value) else .error (.negationOverflow value) := by
  rw [negate, checkWord_eq_ok.mpr ⟨h, rfl⟩]
  rfl

theorem evaluate_of_fits {op : Arith} {left right : Int} (hl : FitsWord left)
    (hr : FitsWord right) :
    evaluate op left right =
      if FitsWord (op.exact left right) then .ok (op.exact left right)
      else .error (.overflow op left right) := by
  rw [evaluate, checkWord_eq_ok.mpr ⟨hl, rfl⟩, checkWord_eq_ok.mpr ⟨hr, rfl⟩]
  rfl

theorem foldUnary_settles (sign : Sign) {operand : Expr} (h : operand.Fits) :
    Settles Expr.Fits (foldUnary sign operand) := by
  unfold foldUnary
  split
  · exact h
  · rename_i value
    rw [negate_of_fits h]
    split
    · rename_i hneg
      exact hneg
    · rename_i hneg
      exact .negationOverflow h hneg
  · exact h

/-- The operand that an operation returns is one of the two. -/
theorem Expr.Fits.neutral {op : Arith} {left right result : Expr} (hl : left.Fits)
    (hr : right.Fits) (h : neutral? op left right = some result) : result.Fits := by
  rcases neutral?_eq_some h with ⟨-, rfl⟩ | ⟨-, -, rfl⟩
  · exact hl
  · exact hr

theorem foldBinary_settles (op : Arith) {left right : Expr} (hl : left.Fits) (hr : right.Fits) :
    Settles Expr.Fits (foldBinary op left right) := by
  unfold foldBinary
  split
  · rename_i operand hneutral
    exact hl.neutral hr hneutral
  · split
    · rename_i l r
      split
      · exact ⟨hl, hr⟩
      · rw [evaluate_of_fits hl hr]
        split
        · rename_i hexact
          exact hexact
        · rename_i hexact
          exact .overflow hl hr hexact
    · exact ⟨hl, hr⟩

theorem Expr.fold_settles {known : Constants} (hknown : known.Fits) {expr : Expr}
    (h : expr.Fits) : Settles Expr.Fits (expr.fold known) := by
  induction expr with
  | int value => exact h
  | var id =>
      rw [Expr.fold]
      split
      · rename_i value hvalue
        exact hknown id value hvalue
      · exact h
  | unary sign operand ih => exact (ih h).bind fun _ => foldUnary_settles sign
  | binary op left right ihl ihr =>
      exact (ihl h.1).bind fun _ hl => (ihr h.2).bind fun _ hr => foldBinary_settles op hl hr

theorem Constants.Fits.empty : Constants.Fits ∅ := by
  intro id value h
  simp at h

theorem Constants.Fits.insert {known : Constants} (hknown : known.Fits) (id : Nat) {value : Int}
    (h : FitsWord value) : Constants.Fits (known.insert id value) := by
  intro other word hword
  rw [Std.TreeMap.getElem?_insert] at hword
  split at hword
  · cases hword
    exact h
  · exact hknown other word hword

theorem Constants.Fits.erase {known : Constants} (hknown : known.Fits) (id : Nat) :
    Constants.Fits (known.erase id) := by
  intro other word hword
  rw [Std.TreeMap.getElem?_erase] at hword
  split at hword
  · cases hword
  · exact hknown other word hword

theorem assigned_settles {known : Constants} (hknown : known.Fits) (id : Nat) {value : Expr}
    (h : value.Fits) : Settles Constants.Fits (assigned known id value) := by
  unfold assigned
  split
  · rename_i word
    rw [checkWord_eq_ok.mpr ⟨h, rfl⟩]
    exact hknown.insert id h
  · exact hknown.erase id

theorem Stmt.fold_settles {known : Constants} (hknown : known.Fits) {stmt : Stmt}
    (h : stmt.value.Fits) :
    Settles (fun result => result.1.value.Fits ∧ result.2.Fits) (stmt.fold known) := by
  cases stmt with
  | assign id value =>
      exact (Expr.fold_settles hknown h).bind fun _ hvalue =>
        (assigned_settles hknown id hvalue).bind fun _ hafter => ⟨hvalue, hafter⟩
  | print value =>
      exact (Expr.fold_settles hknown h).bind fun _ hvalue => ⟨hvalue, hknown⟩

theorem foldFrom_settles {known : Constants} (hknown : known.Fits) {stmts : List Stmt}
    (h : ∀ stmt ∈ stmts, stmt.value.Fits) :
    Settles (fun result => (∀ stmt ∈ result.1, stmt.value.Fits) ∧ result.2.Fits)
      (foldFrom known stmts) := by
  induction stmts generalizing known with
  | nil => exact ⟨fun _ hstmt => absurd hstmt List.not_mem_nil, hknown⟩
  | cons stmt rest ih =>
      obtain ⟨hstmt, hrest⟩ := List.forall_mem_cons.mp h
      refine (Stmt.fold_settles hknown hstmt).bind ?_
      rintro ⟨first, between⟩ ⟨hfirst, hbetween⟩
      refine (ih hbetween hrest).bind ?_
      rintro ⟨others, after⟩ ⟨hothers, hafter⟩
      exact ⟨List.forall_mem_cons.mpr ⟨hfirst, hothers⟩, hafter⟩

/-- A program with literals in range folds to one with literals in range, or to an error that lies
in a result. -/
theorem Program.fold_settles {program : Program} (h : ∀ stmt ∈ program.stmts, stmt.value.Fits) :
    Settles (fun folded => ∀ stmt ∈ folded.program.stmts, stmt.value.Fits) program.fold := by
  refine (foldFrom_settles Constants.Fits.empty h).bind ?_
  rintro ⟨stmts, known⟩ ⟨hstmts, -⟩
  exact hstmts

end StraightLine.Bound

namespace StraightLine.Source

theorem fits_of_faults_int {scope : List String} {value : Int}
    (h : (Expr.int value).faults scope = []) : FitsWord value := by
  by_contra hfits
  rw [Expr.faults, if_neg hfits] at h
  cases h

theorem Expr.fits_bind {scope : List String} {expr : Expr} (h : expr.faults scope = []) :
    (expr.bind scope).Fits := by
  induction expr with
  | int value => exact fits_of_faults_int h
  | var name =>
      rw [Expr.bind, idxOf?_of_mem (mem_of_faults_var h)]
      trivial
  | unary sign operand ih => exact ih h
  | binary op left right ihl ihr =>
      obtain ⟨hop, hleft, hright⟩ := faults_binary h
      obtain ⟨arith, harith⟩ := Operator.exists_arith hop
      rw [Expr.bind, harith]
      exact ⟨ihl hleft, ihr hright⟩

theorem Stmt.value_bind (scope : List String) (stmt : Stmt) :
    (stmt.bind scope).value = stmt.value.bind scope := by
  cases stmt <;> rfl

theorem fits_bindFrom {scope : List String} {stmts : List Stmt}
    (h : (bindFrom scope stmts).hasErrors = false) :
    ∀ stmt ∈ (bindFrom scope stmts).stmts, stmt.value.Fits := by
  induction stmts generalizing scope with
  | nil => exact fun _ hstmt => absurd hstmt List.not_mem_nil
  | cons stmt rest ih =>
      obtain ⟨hfaults, hrest⟩ := hasErrors_bindFrom_cons.mp h
      refine List.forall_mem_cons.mpr ⟨?_, ih hrest⟩
      rw [Stmt.value_bind]
      exact Expr.fits_bind hfaults

/-- A program without faults is folded to one with literals in range, or to an error that lies in a
result. -/
theorem fold_bind_settles {program : Program} (h : (bind program).hasErrors = false) :
    Bound.Settles (fun folded => ∀ stmt ∈ folded.program.stmts, stmt.value.Fits)
      (bind program).fold :=
  Bound.Program.fold_settles (fits_bindFrom h)

end StraightLine.Source
