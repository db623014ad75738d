import StraightLine.Source.Exact
import StraightLine.Proofs.FoldRange

/-! Folding a program without faults is evaluating it over integers. As long as evaluation goes on,
every variable in scope is known with the integer that it holds, so an expression folds to the
literal of its value; the first result that no word holds is the error that folding ends in; and an
expression that divides by zero, if it folds at all, folds to no literal. -/

namespace StraightLine.Bound

open Outcome

/-- The rules that drop an operand give the result of the operation. -/
theorem neutral?_int {op : Arith} {left right : Int} {result : Expr}
    (h : neutral? op (.int left) (.int right) = some result) :
    result = .int (op.exact left right) := by
  rcases neutral?_eq_some h with ⟨hunit, rfl⟩ | ⟨hop, hunit, rfl⟩
  · cases hunit
    rw [op.exact_unit_right]
  · cases hunit
    rw [Arith.exact_unit_left hop]

theorem foldBinary_int {op : Arith} {left right : Int} (hl : FitsWord left) (hr : FitsWord right)
    (hdivisor : ¬ (op = .div ∧ right = 0)) :
    foldBinary op (.int left) (.int right) =
      if FitsWord (op.exact left right) then .ok (.int (op.exact left right))
      else .error (.overflow op left right) := by
  unfold foldBinary
  cases hneutral : neutral? op (.int left) (.int right) with
  | some result =>
      have hleft : (Expr.int left).Fits := hl
      have hright : (Expr.int right).Fits := hr
      have hfits := hleft.neutral hright hneutral
      rw [neutral?_int hneutral] at hfits ⊢
      exact (if_pos hfits).symm
  | none =>
      simp only [if_neg hdivisor]
      rw [evaluate_of_fits hl hr]
      split
      · rfl
      · rfl

theorem UnaryStep.ne_int {sign : Sign} {operand result : Expr}
    (h : UnaryStep sign operand result) (hoperand : ∀ value, operand ≠ .int value) :
    ∀ value, result ≠ .int value := by
  cases h with
  | plus operand => exact hoperand
  | negated hfits hneg => exact absurd rfl (hoperand _)
  | kept hliteral =>
      intro value hvalue
      cases hvalue

theorem BinaryStep.ne_int_of_left {op : Arith} {left right result : Expr}
    (h : BinaryStep op left right result) (hleft : ∀ value, left ≠ .int value) :
    ∀ value, result ≠ .int value := by
  cases h with
  | unitRight left => exact hleft
  | unitLeft hop right => exact absurd rfl (hleft _)
  | evaluated hdivisor hl hr hexact => exact absurd rfl (hleft _)
  | kept hneutral hliterals =>
      intro value hvalue
      cases hvalue

theorem BinaryStep.ne_int_of_right {op : Arith} {left right result : Expr}
    (h : BinaryStep op left right result) (hright : ∀ value, right ≠ .int value) :
    ∀ value, result ≠ .int value := by
  cases h with
  | unitRight left => exact absurd rfl (hright _)
  | unitLeft hop right => exact hright
  | evaluated hdivisor hl hr hexact => exact absurd rfl (hright _)
  | kept hneutral hliterals =>
      intro value hvalue
      cases hvalue

end StraightLine.Bound

namespace StraightLine.Source

open Outcome StraightLine.Bound

/-- The error that folding ends in where evaluation ends in a trap. A zero divisor has none. -/
inductive Reported : Trap → FoldError → Prop where
  | overflow {op : Operator} {arith : Arith} {left right : Int}
      (harith : op.arith? = some arith) :
      Reported (.overflow op left right) (.overflow arith left right)
  | negationOverflow (value : Int) :
      Reported (.negationOverflow value) (.negationOverflow value)

/-- What folding makes of an expression, by what evaluation makes of it. -/
inductive Mirrors : Except Trap Int → Except FoldError Bound.Expr → Prop where
  | value {value : Int} (hfits : FitsWord value) : Mirrors (.ok value) (.ok (.int value))
  | reported {trap : Trap} {error : FoldError} (h : Reported trap error) :
      Mirrors (.error trap) (.error error)
  | zeroDivisor {folded : Except FoldError Bound.Expr}
      (h : ∀ expr, folded = .ok expr → ∀ value, expr ≠ .int value) :
      Mirrors (.error .zeroDivisor) folded

theorem Mirrors.unary {outcome : Except Trap Int} {folded : Except FoldError Bound.Expr}
    (h : Mirrors outcome folded) (sign : Sign) :
    Mirrors (outcome >>= sign.exact) (folded >>= foldUnary sign) := by
  cases h with
  | @value value hfits =>
      rw [ok_bind, ok_bind]
      cases sign with
      | plus => exact .value hfits
      | minus =>
          rw [Sign.exact, foldUnary, negate_of_fits hfits]
          split
          · rename_i hneg
            exact .value hneg
          · exact .reported (.negationOverflow value)
  | reported h => exact .reported h
  | zeroDivisor h =>
      refine .zeroDivisor fun expr hexpr => ?_
      obtain ⟨operand, hoperand, hresult⟩ := bind_eq_ok.mp hexpr
      exact (foldUnary_step hresult).ne_int (h operand hoperand)

theorem Operator.result_arith {op : Operator} {arith : Arith} (h : op.arith? = some arith) :
    op.result = arith.exact := by
  cases op <;> cases h <;> rfl

theorem Operator.divides_arith {op : Operator} {arith : Arith} (h : op.arith? = some arith) :
    op = .div ∨ op = .rem ↔ arith = .div := by
  cases op <;> cases h <;> simp

theorem Mirrors.operation {op : Operator} {arith : Arith} (harith : op.arith? = some arith)
    {left right : Int} (hl : FitsWord left) (hr : FitsWord right) :
    Mirrors (op.exact left right) (foldBinary arith (.int left) (.int right)) := by
  rw [Operator.exact, Operator.result_arith harith]
  simp only [Operator.divides_arith harith]
  by_cases hdivisor : arith = .div ∧ right = 0
  · rw [if_pos hdivisor]
    obtain ⟨rfl, rfl⟩ := hdivisor
    refine .zeroDivisor fun expr hexpr => ?_
    cases hexpr
    intro value hvalue
    cases hvalue
  · rw [if_neg hdivisor, foldBinary_int hl hr hdivisor]
    split
    · rename_i hexact
      exact .value hexact
    · exact .reported (.overflow harith)

/-- The left operand is evaluated first, and folded first. -/
theorem Mirrors.binary {op : Operator} {arith : Arith} (harith : op.arith? = some arith)
    {left right : Except Trap Int} {left' right' : Except FoldError Bound.Expr}
    (hleft : Mirrors left left') (hright : Mirrors right right') :
    Mirrors (do op.exact (← left) (← right)) (do foldBinary arith (← left') (← right')) := by
  cases hleft with
  | value hl =>
      rw [ok_bind, ok_bind]
      cases hright with
      | value hr => exact Mirrors.operation harith hl hr
      | reported h => exact .reported h
      | zeroDivisor h =>
          refine .zeroDivisor fun expr hexpr => ?_
          obtain ⟨r, hr, hresult⟩ := bind_eq_ok.mp hexpr
          exact (foldBinary_step hresult).ne_int_of_right (h r hr)
  | reported h => exact .reported h
  | zeroDivisor h =>
      refine .zeroDivisor fun expr hexpr => ?_
      obtain ⟨l, hl, hexpr⟩ := bind_eq_ok.mp hexpr
      obtain ⟨r, -, hresult⟩ := bind_eq_ok.mp hexpr
      exact (foldBinary_step hresult).ne_int_of_left (h l hl)

/-- Every variable in scope is known with the integer that it holds, which fits a word. -/
def Knows (scope : List String) (integers : Integers) (known : Constants) : Prop :=
  ∀ name ∈ scope, ∃ value, integers name = some value ∧
    known[scope.idxOf name]? = some value ∧ FitsWord value

variable {scope : List String} {integers : Integers} {known : Constants}

theorem Knows.assign (hknows : Knows scope integers known) (name : String) {value : Int}
    (hfits : FitsWord value) :
    Knows (declare scope name) (fun other => if other = name then some value else integers other)
      (known.insert ((declare scope name).idxOf name) value) := by
  intro other hother
  by_cases hname : other = name
  · subst hname
    exact ⟨value, if_pos rfl, by simp, hfits⟩
  · have hscope : other ∈ scope := (mem_declare.mp hother).resolve_right hname
    obtain ⟨held, hinteger, hheld, hword⟩ := hknows other hscope
    have hid : compare ((declare scope name).idxOf name) ((declare scope name).idxOf other) ≠ .eq := by
      intro hid
      exact hname ((List.idxOf_inj hother).mp (Std.LawfulEqOrd.eq_of_compare hid).symm)
    refine ⟨held, (if_neg hname).trans hinteger, ?_, hword⟩
    rw [Std.TreeMap.getElem?_insert, if_neg hid, idxOf_declare hscope, hheld]

/-- Folding an expression without faults mirrors its evaluation. -/
theorem Expr.mirrors_fold {expr : Expr} (hknows : Knows scope integers known)
    (hfaults : expr.faults scope = []) :
    Mirrors (expr.exact integers) ((expr.bind scope).fold known) := by
  induction expr with
  | int value => exact .value (fits_of_faults_int hfaults)
  | var name =>
      have hname := mem_of_faults_var hfaults
      obtain ⟨value, hinteger, hvalue, hfits⟩ := hknows name hname
      rw [Expr.exact, hinteger, Expr.bind, idxOf?_of_mem hname, Bound.Expr.fold, hvalue]
      exact .value hfits
  | unary sign operand ih => exact (ih hfaults).unary sign
  | binary op left right ihl ihr =>
      obtain ⟨hop, hleft, hright⟩ := faults_binary hfaults
      obtain ⟨arith, harith⟩ := Operator.exists_arith hop
      rw [Expr.bind, harith]
      exact Mirrors.binary harith (ihl hleft) (ihr hright)

/-- A statement whose expression has a value folds to the literal, and every variable in scope is
known after it. -/
theorem Stmt.fold_of_value {stmt : Stmt} {value : Int} (hknows : Knows scope integers known)
    (hfaults : stmt.value.faults scope = []) (hvalue : stmt.value.exact integers = .ok value) :
    ∃ folded after, (stmt.bind scope).fold known = .ok (folded, after) ∧
      folded.value = .int value ∧
      Knows (stmt.scopeAfter scope) (stmt.integersAfter integers value) after := by
  have hmirrors := Expr.mirrors_fold hknows hfaults
  rw [hvalue] at hmirrors
  generalize hfold : (stmt.value.bind scope).fold known = outcome at hmirrors
  cases hmirrors with
  | value hfits =>
      cases stmt with
      | assign name expr =>
          rw [Stmt.value] at hfold
          refine ⟨.assign ((declare scope name).idxOf name) (.int value), _, ?_, rfl,
            hknows.assign name hfits⟩
          rw [Stmt.bind, Bound.Stmt.fold, hfold, ok_bind, assigned,
            checkWord_eq_ok.mpr ⟨hfits, rfl⟩]
          rfl
      | print expr =>
          rw [Stmt.value] at hfold
          refine ⟨.print (.int value), _, ?_, rfl, hknows⟩
          rw [Stmt.bind, Bound.Stmt.fold, hfold]
          rfl

/-- What folding makes of statements, by what evaluation makes of them. -/
inductive MirrorsRun : Evaluation → Except FoldError (List Bound.Stmt × Constants) → Prop where
  | completed {values : List Int} {stmts : List Bound.Stmt} {known : Constants}
      (h : stmts.map Bound.Stmt.value = values.map .int) :
      MirrorsRun ⟨values, none⟩ (.ok (stmts, known))
  | reported {values : List Int} {trap : Trap} {error : FoldError} (h : Reported trap error) :
      MirrorsRun ⟨values, some trap⟩ (.error error)
  | zeroDivisor {values : List Int} {folded : Except FoldError (List Bound.Stmt × Constants)}
      (h : ∀ stmts known, folded = .ok (stmts, known) → ∃ expr rest,
        stmts.map Bound.Stmt.value = values.map .int ++ expr :: rest ∧
          ∀ value, expr ≠ .int value) :
      MirrorsRun ⟨values, some .zeroDivisor⟩ folded

theorem MirrorsRun.after {evaluation : Evaluation}
    {folded : Except FoldError (List Bound.Stmt × Constants)} {stmt : Bound.Stmt} {value : Int}
    (h : MirrorsRun evaluation folded) (hstmt : stmt.value = .int value) :
    MirrorsRun (evaluation.after value)
      (folded >>= fun result => .ok (stmt :: result.1, result.2)) := by
  cases h with
  | completed h => exact .completed (by rw [List.map_cons, hstmt, h, List.map_cons])
  | reported h => exact .reported h
  | zeroDivisor h =>
      refine .zeroDivisor fun stmts known hstmts => ?_
      obtain ⟨⟨others, last⟩, hothers, hsame⟩ := bind_eq_ok.mp hstmts
      cases hsame
      obtain ⟨expr, rest, hvalues, hliteral⟩ := h others last hothers
      exact ⟨expr, rest, by rw [List.map_cons, hstmt, hvalues, List.map_cons, List.cons_append],
        hliteral⟩

theorem mirrorsRun_foldFrom {stmts : List Stmt} (hknows : Knows scope integers known)
    (herrors : (bindFrom scope stmts).hasErrors = false) :
    MirrorsRun (evaluateFrom integers stmts) (foldFrom known (bindFrom scope stmts).stmts) := by
  induction stmts generalizing scope integers known with
  | nil => exact .completed rfl
  | cons stmt rest ih =>
      obtain ⟨hfaults, hrest⟩ := hasErrors_bindFrom_cons.mp herrors
      simp only [evaluateFrom, bindFrom]
      cases hvalue : stmt.value.exact integers with
      | ok value =>
          obtain ⟨folded, after, hfold, hliteral, hafter⟩ :=
            Stmt.fold_of_value hknows hfaults hvalue
          rw [foldFrom, hfold, ok_bind]
          exact (ih hafter hrest).after hliteral
      | error trap =>
          have hmirrors := Expr.mirrors_fold hknows hfaults
          rw [hvalue, ← Stmt.value_bind] at hmirrors
          generalize hfold : (stmt.bind scope).value.fold known = outcome at hmirrors
          cases hmirrors with
          | reported h =>
              rw [foldFrom, Bound.Stmt.fold_of_error hfold]
              exact .reported h
          | zeroDivisor h =>
              refine .zeroDivisor fun stmts last hstmts => ?_
              obtain ⟨first, between, others, hstep, -, rfl⟩ := foldFrom_cons hstmts
              exact ⟨first.value, others.map Bound.Stmt.value, rfl,
                h first.value (hfold.symm.trans hstep.value_fold)⟩

/-- Folding a program without faults is evaluating it over integers. If evaluation completes, every
statement folds to the literal of its value. If it ends in a result that no word holds, folding ends
in the error for the same operation with the same operands. If it ends in a zero divisor and folding
ends well, the statements before are literals, and the one that divides is not. Evaluation ends for
no other reason, folding never complains of a literal, and of all quotients only that of the
smallest word and minus one overflows. -/
theorem fold_bind_exact (program : Program) (h : (bind program).hasErrors = false) :
    (∀ values, evaluate program = ⟨values, none⟩ →
      ∃ folded, (bind program).fold = .ok folded ∧
        folded.program.stmts.map Bound.Stmt.value = values.map .int) ∧
    (∀ values op left right, evaluate program = ⟨values, some (.overflow op left right)⟩ →
      ∃ arith, op.arith? = some arith ∧
        (bind program).fold = .error (.overflow arith left right)) ∧
    (∀ values value, evaluate program = ⟨values, some (.negationOverflow value)⟩ →
      (bind program).fold = .error (.negationOverflow value)) ∧
    (∀ values folded, evaluate program = ⟨values, some .zeroDivisor⟩ →
      (bind program).fold = .ok folded →
      ∃ expr rest, folded.program.stmts.map Bound.Stmt.value = values.map .int ++ expr :: rest ∧
        ∀ value, expr ≠ .int value) ∧
    (∀ values name, evaluate program ≠ ⟨values, some (.unassigned name)⟩) ∧
    (∀ value, (bind program).fold ≠ .error (.literalOutOfRange value)) ∧
    ∀ left right, (bind program).fold = .error (.overflow .div left right) →
      left = -2147483648 ∧ right = -1 := by
  have hknows : Knows [] (fun _ => none) ∅ := fun _ hname => absurd hname List.not_mem_nil
  have hmirrors : MirrorsRun (evaluate program) (foldFrom ∅ (bind program).stmts) :=
    mirrorsRun_foldFrom hknows h
  have hsettles := fold_bind_settles h
  generalize hfrom : foldFrom ∅ (bind program).stmts = outcome at hmirrors
  refine ⟨?_, ?_, ?_, ?_, ?_, ?_, ?_⟩
  · intro values hvalues
    rw [hvalues] at hmirrors
    cases hmirrors with
    | completed hliterals => exact ⟨_, Program.fold_of_ok hfrom, hliterals⟩
  · intro values op left right hvalues
    rw [hvalues] at hmirrors
    cases hmirrors with
    | reported hreported =>
        cases hreported with
        | overflow harith => exact ⟨_, harith, Program.fold_of_error hfrom⟩
  · intro values value hvalues
    rw [hvalues] at hmirrors
    cases hmirrors with
    | reported hreported =>
        cases hreported with
        | negationOverflow value => exact Program.fold_of_error hfrom
  · intro values folded hvalues hfold
    rw [hvalues] at hmirrors
    obtain ⟨stmts, hstmts, hprogram⟩ := Program.fold_eq_ok hfold
    rw [hfrom] at hstmts
    rw [hprogram]
    cases hmirrors with
    | reported hreported => cases hreported
    | zeroDivisor hliterals => exact hliterals stmts folded.known hstmts
  · intro values name hvalues
    rw [hvalues] at hmirrors
    cases hmirrors with
    | reported hreported => cases hreported
  · intro value hfold
    rw [hfold] at hsettles
    cases hsettles
  · intro left right hfold
    rw [hfold] at hsettles
    cases hsettles with
    | overflow hl hr hexact => exact Word.eq_of_not_fitsWord_tdiv hl hexact

/-- A product and its negation, a sum that no word holds, the negation of the smallest word, and a
quotient by a variable that holds zero. -/
theorem fold_bind_exact_cases :
    (∃ folded, (bind [.assign "x" (.binary .mul (.int 6) (.int 7)),
        .print (.unary .minus (.var "x"))]).fold = .ok folded ∧
      folded.program.stmts.map Bound.Stmt.value = [.int 42, .int (-42)]) ∧
    (∃ arith, Operator.add.arith? = some arith ∧
      (bind [.assign "x" (.int 2147483647), .print (.binary .add (.int 1) (.var "x"))]).fold =
        .error (.overflow arith 1 2147483647)) ∧
    (bind [.assign "x" (.binary .sub (.int (-2147483647)) (.int 1)),
      .print (.unary .minus (.var "x"))]).fold = .error (.negationOverflow (-2147483648)) ∧
    ∃ folded, (bind [.assign "z" (.int 0), .print (.binary .add (.int 0)
        (.binary .div (.int 1) (.var "z")))]).fold = .ok folded ∧
      ∃ expr rest, folded.program.stmts.map Bound.Stmt.value = [.int 0] ++ expr :: rest ∧
        ∀ value, expr ≠ .int value := by
  have hdivision := (fold_bind_exact [.assign "z" (.int 0), .print (.binary .add (.int 0)
    (.binary .div (.int 1) (.var "z")))] rfl).2.2.2.1 [0]
  exact ⟨(fold_bind_exact _ rfl).1 [42, -42] rfl,
    (fold_bind_exact _ rfl).2.1 [2147483647] .add 1 2147483647 rfl,
    (fold_bind_exact _ rfl).2.2.1 [-2147483648] (-2147483648) rfl,
    ⟨_, rfl, hdivision _ rfl rfl⟩⟩

end StraightLine.Source
