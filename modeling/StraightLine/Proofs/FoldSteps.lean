import StraightLine.Bound.Fold
import StraightLine.Proofs.WordArithmetic

/-! What one step of folding can do. Every rule of a sign or an operator is one case of an inductive
predicate that carries the rule's conditions, so that a property of folding is proved rule by rule
and no proof opens the definitions again. -/

namespace StraightLine.Bound

open Outcome

theorem checkWord_eq_ok {value word : Int} :
    checkWord value = .ok word ↔ FitsWord value ∧ word = value := by
  unfold checkWord
  split
  · rename_i hfits
    simp [hfits, eq_comm]
  · rename_i hfits
    simp [hfits]

theorem negate_eq_ok {value word : Int} :
    negate value = .ok word ↔ FitsWord value ∧ FitsWord (-value) ∧ word = -value := by
  simp only [negate, bind_eq_ok, checkWord_eq_ok]
  constructor
  · rintro ⟨checked, ⟨hfits, rfl⟩, h⟩
    split at h
    · rename_i hneg
      cases h
      exact ⟨hfits, hneg, rfl⟩
    · cases h
  · rintro ⟨hfits, hneg, rfl⟩
    exact ⟨value, ⟨hfits, rfl⟩, by simp [hneg]⟩

theorem evaluate_eq_ok {op : Arith} {left right word : Int} :
    evaluate op left right = .ok word ↔
      FitsWord left ∧ FitsWord right ∧ FitsWord (op.exact left right) ∧
        word = op.exact left right := by
  simp only [evaluate, bind_eq_ok, checkWord_eq_ok]
  constructor
  · rintro ⟨l, ⟨hl, rfl⟩, r, ⟨hr, rfl⟩, h⟩
    split at h
    · rename_i hexact
      cases h
      exact ⟨hl, hr, hexact, rfl⟩
    · cases h
  · rintro ⟨hl, hr, hexact, rfl⟩
    exact ⟨left, ⟨hl, rfl⟩, right, ⟨hr, rfl⟩, by simp [hexact]⟩

/-- The operand that remains has the operator's unit beside it: on the right of any operator, or on
the left of a sum or product. -/
theorem neutral?_eq_some {op : Arith} {left right result : Expr}
    (h : neutral? op left right = some result) :
    (right = .int op.unit ∧ result = left) ∨
      ((op = .add ∨ op = .mul) ∧ left = .int op.unit ∧ result = right) := by
  cases op with
  | add =>
      simp only [neutral?] at h
      split at h
      · exact Or.inl ⟨by assumption, by simpa [eq_comm] using h⟩
      · split at h
        · exact Or.inr ⟨Or.inl rfl, by assumption, by simpa [eq_comm] using h⟩
        · cases h
  | sub =>
      simp only [neutral?] at h
      split at h
      · exact Or.inl ⟨by assumption, by simpa [eq_comm] using h⟩
      · cases h
  | mul =>
      simp only [neutral?] at h
      split at h
      · exact Or.inl ⟨by assumption, by simpa [eq_comm] using h⟩
      · split at h
        · exact Or.inr ⟨Or.inr rfl, by assumption, by simpa [eq_comm] using h⟩
        · cases h
  | div =>
      simp only [neutral?] at h
      split at h
      · exact Or.inl ⟨by assumption, by simpa [eq_comm] using h⟩
      · cases h

/-- What a sign with a folded operand becomes. -/
inductive UnaryStep : Sign → Expr → Expr → Prop where
  | plus (operand : Expr) : UnaryStep .plus operand operand
  | negated {value : Int} (hfits : FitsWord value) (hneg : FitsWord (-value)) :
      UnaryStep .minus (.int value) (.int (-value))
  | kept {operand : Expr} (hliteral : ∀ value, operand ≠ .int value) :
      UnaryStep .minus operand (.unary .minus operand)

theorem foldUnary_step {sign : Sign} {operand result : Expr}
    (h : foldUnary sign operand = .ok result) : UnaryStep sign operand result := by
  unfold foldUnary at h
  split at h
  · cases h
    exact .plus _
  · obtain ⟨word, hnegate, rfl⟩ := map_eq_ok.mp h
    obtain ⟨hfits, hneg, rfl⟩ := negate_eq_ok.mp hnegate
    exact .negated hfits hneg
  · rename_i hliteral
    cases h
    exact .kept hliteral

/-- What an operator with folded operands becomes. -/
inductive BinaryStep (op : Arith) : Expr → Expr → Expr → Prop where
  | unitRight (left : Expr) : BinaryStep op left (.int op.unit) left
  | unitLeft (hop : op = .add ∨ op = .mul) (right : Expr) :
      BinaryStep op (.int op.unit) right right
  | evaluated {left right : Int} (hdivisor : ¬ (op = .div ∧ right = 0)) (hl : FitsWord left)
      (hr : FitsWord right) (hexact : FitsWord (op.exact left right)) :
      BinaryStep op (.int left) (.int right) (.int (op.exact left right))
  | kept {left right : Expr} (hneutral : neutral? op left right = none)
      (hliterals : ∀ l r, left = .int l → right = .int r → op = .div ∧ r = 0) :
      BinaryStep op left right (.binary op left right)

theorem foldBinary_step {op : Arith} {left right result : Expr}
    (h : foldBinary op left right = .ok result) : BinaryStep op left right result := by
  unfold foldBinary at h
  split at h
  · rename_i operand hneutral
    cases h
    rcases neutral?_eq_some hneutral with ⟨rfl, rfl⟩ | ⟨hop, rfl, rfl⟩
    · exact .unitRight _
    · exact .unitLeft hop _
  · rename_i hneutral
    split at h
    · split at h
      · rename_i hdivisor
        cases h
        refine .kept hneutral ?_
        rintro l r hl hr
        cases hl
        cases hr
        exact hdivisor
      · rename_i hdivisor
        obtain ⟨word, hword, rfl⟩ := map_eq_ok.mp h
        obtain ⟨hl, hr, hexact, rfl⟩ := evaluate_eq_ok.mp hword
        exact .evaluated hdivisor hl hr hexact
    · rename_i hliterals
      cases h
      exact .kept hneutral fun l r hl hr => absurd hr (hliterals l r hl)

/-- What a statement becomes, and what is known after it. -/
inductive StmtStep (known : Constants) : Stmt → Stmt → Constants → Prop where
  | literal {id : Nat} {value : Expr} {word : Int} (hvalue : value.fold known = .ok (.int word))
      (hfits : FitsWord word) :
      StmtStep known (.assign id value) (.assign id (.int word)) (known.insert id word)
  | assign {id : Nat} {value folded : Expr} (hvalue : value.fold known = .ok folded)
      (hliteral : ∀ word, folded ≠ .int word) :
      StmtStep known (.assign id value) (.assign id folded) (known.erase id)
  | print {value folded : Expr} (hvalue : value.fold known = .ok folded) :
      StmtStep known (.print value) (.print folded) known

theorem fold_step {known after : Constants} {stmt folded : Stmt}
    (h : stmt.fold known = .ok (folded, after)) : StmtStep known stmt folded after := by
  cases stmt with
  | assign id value =>
      simp only [Stmt.fold, bind_eq_ok] at h
      obtain ⟨result, hvalue, rest, hassigned, h⟩ := h
      cases h
      unfold assigned at hassigned
      split at hassigned
      · obtain ⟨word, hword, rfl⟩ := map_eq_ok.mp hassigned
        obtain ⟨hfits, rfl⟩ := checkWord_eq_ok.mp hword
        exact .literal hvalue hfits
      · rename_i hliteral
        cases hassigned
        exact .assign hvalue hliteral
  | print value =>
      simp only [Stmt.fold, bind_eq_ok] at h
      obtain ⟨result, hvalue, h⟩ := h
      cases h
      exact .print hvalue

theorem Stmt.fold_of_error {known : Constants} {stmt : Stmt} {error : FoldError}
    (h : stmt.value.fold known = .error error) : stmt.fold known = .error error := by
  cases stmt with
  | assign id value => exact congrArg (· >>= _) h
  | print value => exact congrArg (· >>= _) h

theorem StmtStep.value_fold {known after : Constants} {stmt folded : Stmt}
    (h : StmtStep known stmt folded after) : stmt.value.fold known = .ok folded.value := by
  cases h with
  | literal hvalue hfits => exact hvalue
  | assign hvalue hliteral => exact hvalue
  | print hvalue => exact hvalue

/-- Folding statements folds the first and then the others, with what is known after it. -/
theorem foldFrom_cons {known after : Constants} {stmt : Stmt} {rest folded : List Stmt}
    (h : foldFrom known (stmt :: rest) = .ok (folded, after)) :
    ∃ first between others, StmtStep known stmt first between ∧
      foldFrom between rest = .ok (others, after) ∧ folded = first :: others := by
  simp only [foldFrom, bind_eq_ok] at h
  obtain ⟨⟨first, between⟩, hfirst, ⟨others, last⟩, hothers, h⟩ := h
  cases h
  exact ⟨first, between, others, fold_step hfirst, hothers, rfl⟩

/-- Folding goes on after some statements with what it has learned from them, and from nothing else. -/
theorem foldFrom_append (known : Constants) (first second : List Stmt) :
    foldFrom known (first ++ second) = do
      let (folded, between) ← foldFrom known first
      let (rest, after) ← foldFrom between second
      return (folded ++ rest, after) := by
  induction first generalizing known with
  | nil =>
      simp only [List.nil_append, foldFrom, ok_bind]
      cases foldFrom known second <;> rfl
  | cons stmt first ih =>
      simp only [List.cons_append, foldFrom, ih]
      cases stmt.fold known with
      | error error => rfl
      | ok step =>
          simp only [ok_bind]
          cases foldFrom step.2 first with
          | error error => rfl
          | ok folded =>
              simp only [ok_bind, pure_eq_ok]
              cases foldFrom folded.2 second <;> rfl

theorem Program.fold_eq_ok {program : Program} {folded : Folded}
    (h : program.fold = .ok folded) :
    ∃ stmts, foldFrom ∅ program.stmts = .ok (stmts, folded.known) ∧
      folded.program = { program with stmts } := by
  simp only [Program.fold, bind_eq_ok] at h
  obtain ⟨⟨stmts, known⟩, hstmts, h⟩ := h
  cases h
  exact ⟨stmts, hstmts, rfl⟩

theorem Program.fold_of_ok {program : Program} {stmts : List Stmt} {known : Constants}
    (h : foldFrom ∅ program.stmts = .ok (stmts, known)) :
    program.fold = .ok ⟨{ program with stmts }, known⟩ := by
  rw [Program.fold, h]
  rfl

theorem Program.fold_of_error {program : Program} {error : FoldError}
    (h : foldFrom ∅ program.stmts = .error error) : program.fold = .error error := by
  rw [Program.fold, h]
  rfl

end StraightLine.Bound
