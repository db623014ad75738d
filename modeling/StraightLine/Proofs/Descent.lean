import StraightLine.Proofs.ParseSteps

/-! The parser and the reader agree. Wherever the parser starts on a phrase, the reader, in a state
that waits for such a phrase, goes through the same tokens and comes out in the state that holds
what has been parsed, or fails with the same error. The reader keeps apart what the parser has
already put together, the left sides of sums and products and the signs, so states are compared by
what becomes of them. -/

namespace StraightLine.Source

open Outcome

namespace Cursor

/-- The tokens from the cursor on. -/
def rest (cursor : Cursor) : List Token :=
  cursor.tokens.toList.drop cursor.pos

theorem exists_rest_eq_cons (cursor : Cursor) : ∃ more, cursor.rest = cursor.peek :: more := by
  have hpeek := cursor.peek_eq
  rw [← Array.getElem?_toList] at hpeek
  obtain ⟨hpos, hget⟩ := List.getElem?_eq_some_iff.mp hpeek
  exact ⟨_, by rw [rest, List.drop_eq_getElem_cons hpos, hget]⟩

/-- Going on passes the token at the cursor, unless it is the last. -/
theorem rest_eq_cons {cursor : Cursor} (h : cursor.peek.kind ≠ .eof) :
    cursor.rest = cursor.peek :: cursor.advance.rest := by
  have hlast := pos_lt_last h
  have hpeek := cursor.peek_eq
  rw [← Array.getElem?_toList] at hpeek
  obtain ⟨hpos, hget⟩ := List.getElem?_eq_some_iff.mp hpeek
  rw [rest, List.drop_eq_getElem_cons hpos, hget, rest, advance, dif_pos hlast]

/-! Facts about the parser are proved for a cursor from those further ahead. -/

theorem induction_left {motive : Cursor → Prop}
    (ind : ∀ cursor, (∀ later, later.left < cursor.left → motive later) → motive cursor)
    (cursor : Cursor) : motive cursor :=
  (measure left).wf.induction cursor ind

theorem Parsed.induction_left {start : Cursor} {α : Type} {motive : Parsed start α → Prop}
    (ind : ∀ parsed, (∀ later : Parsed start α, later.cursor.left < parsed.cursor.left →
      motive later) → motive parsed)
    (parsed : Parsed start α) : motive parsed :=
  (measure fun parsed : Parsed start α => parsed.cursor.left).wf.induction parsed ind

variable {cursor start : Cursor}

theorem Parsed.left_join_lt {left : Parsed start Expr} (op : Operator)
    (hne : left.cursor.peek.kind ≠ .eof) (right : Parsed left.cursor.advance Expr) :
    (left.join op hne right).cursor.left < left.cursor.left :=
  ((Ahead.next hne).trans right.ahead).left_lt

/-! What the parser does for each operator and sign, and where it has none to go on with. -/

theorem sums_of_some {left : Parsed start Expr} {op : Operator}
    (hop : left.cursor.peek.kind.sum? = some op) (hne : left.cursor.peek.kind ≠ .eof) :
    sums left = left.cursor.advance.term >>= fun right => sums (left.join op hne right) := by
  rw [sums]
  split <;> simp_all

theorem sums_of_none {left : Parsed start Expr} (hop : left.cursor.peek.kind.sum? = none) :
    sums left = .ok left := by
  rw [sums]
  split <;> simp_all

theorem products_of_some {left : Parsed start Expr} {op : Operator}
    (hop : left.cursor.peek.kind.product? = some op) (hne : left.cursor.peek.kind ≠ .eof) :
    products left = left.cursor.advance.factor >>= fun right =>
      products (left.join op hne right) := by
  rw [products]
  split <;> simp_all

theorem products_of_none {left : Parsed start Expr} (hop : left.cursor.peek.kind.product? = none) :
    products left = .ok left := by
  rw [products]
  split <;> simp_all

theorem factor_of_some {sign : Sign} (hsign : cursor.peek.kind.sign? = some sign)
    (hne : cursor.peek.kind ≠ .eof) :
    factor cursor = cursor.advance.factor >>= fun operand => .ok (operand.signed sign hne) := by
  rw [factor]
  split <;> simp_all

theorem factor_of_none (hsign : cursor.peek.kind.sign? = none) :
    factor cursor = primary cursor := by
  rw [factor]
  split <;> simp_all

/-! Where a phrase ends. -/

theorem products_end {left parsed : Parsed start Expr} (h : products left = .ok parsed) :
    parsed.cursor.peek.kind.product? = none := by
  induction left using Parsed.induction_left with
  | ind left ih =>
      cases hop : left.cursor.peek.kind.product? with
      | none =>
          rw [products_of_none hop] at h
          cases h
          exact hop
      | some op =>
          have hne := TokenKind.ne_eof_of_product? hop
          rw [products_of_some hop hne] at h
          obtain ⟨right, -, h⟩ := bind_eq_ok.mp h
          exact ih _ (Parsed.left_join_lt op hne right) h

theorem term_end {parsed : Parsed cursor Expr} (h : term cursor = .ok parsed) :
    parsed.cursor.peek.kind.product? = none := by
  rw [term] at h
  obtain ⟨first, -, h⟩ := bind_eq_ok.mp h
  exact products_end h

theorem sums_end {left parsed : Parsed start Expr} (h : sums left = .ok parsed)
    (hleft : left.cursor.peek.kind.product? = none) :
    parsed.cursor.peek.kind.sum? = none ∧ parsed.cursor.peek.kind.product? = none := by
  induction left using Parsed.induction_left with
  | ind left ih =>
      cases hop : left.cursor.peek.kind.sum? with
      | none =>
          rw [sums_of_none hop] at h
          cases h
          exact ⟨hop, hleft⟩
      | some op =>
          have hne := TokenKind.ne_eof_of_sum? hop
          rw [sums_of_some hop hne] at h
          obtain ⟨right, hright, h⟩ := bind_eq_ok.mp h
          have hend : right.cursor.peek.kind.product? = none := term_end hright
          exact ih _ (Parsed.left_join_lt op hne right) h hend

theorem expr_end {parsed : Parsed cursor Expr} (h : expr cursor = .ok parsed) :
    parsed.cursor.peek.kind.sum? = none ∧ parsed.cursor.peek.kind.product? = none := by
  rw [expr] at h
  obtain ⟨first, hfirst, h⟩ := bind_eq_ok.mp h
  exact sums_end h (term_end hfirst)

end Cursor

namespace Reading

open Cursor

/-- States that keep the same sum apart and whose term is the same go on alike. -/
theorem statements_operator_congr {level level' : Pending} {last last' : Expr}
    (hsum : level.sum = level'.sum) (hterm : level.term last = level'.term last') (head : Head)
    (outer : List Pending) (stop : Nat) (tokens : List Token) :
    (Reading.operator head level outer last).statements stop tokens =
      (Reading.operator head level' outer last').statements stop tokens := by
  have hexpr : level.expr last = level'.expr last' := by
    rw [Pending.expr, Pending.expr, hsum, hterm]
  have hfinish : ∀ pos, (Reading.operator head level outer last).finish pos =
      (Reading.operator head level' outer last').finish pos := by
    intro pos
    cases outer <;> simp [finish, hexpr]
  cases tokens with
  | nil => exact hfinish stop
  | cons token tokens =>
      have hstep : (Reading.operator head level outer last).step token =
          (Reading.operator head level' outer last').step token := by
        simp only [step, hsum, hterm, hexpr]
      simp only [statements, hfinish, hstep]

/-- Where no factor can follow, the sum that has been kept apart is put together. -/
theorem statements_operator_settled {cursor : Cursor} (h : cursor.peek.kind.product? = none)
    (head : Head) (level : Pending) (outer : List Pending) (last : Expr) (stop : Nat) :
    (Reading.operator head level outer last).statements stop cursor.rest =
      (Reading.operator head {} outer (level.expr last)).statements stop cursor.rest := by
  obtain ⟨more, hrest⟩ := cursor.exists_rest_eq_cons
  have hempty : Pending.expr {} (level.expr last) = level.expr last := rfl
  have hfinish : (Reading.operator head level outer last).finish cursor.peek.pos =
      (Reading.operator head {} outer (level.expr last)).finish cursor.peek.pos := by
    cases outer <;> simp [finish, hempty]
  have hstep : (Reading.operator head level outer last).step cursor.peek =
      (Reading.operator head {} outer (level.expr last)).step cursor.peek := by
    revert h
    cases hkind : cursor.peek.kind <;> simp [step, hkind, hempty, TokenKind.product?]
  rw [hrest, statements, statements, hfinish, hstep]

/-- The reader in the state `before` goes through what has been parsed from `tokens` on and comes out
in the state that `after` gives, or fails as the parser did. -/
def Follows {start : Cursor} {α : Type} (before : Reading) (tokens : List Token)
    (after : α → Reading) (parsed : Except SyntaxError (Parsed start α)) : Prop :=
  ∀ stop, before.statements stop tokens =
    parsed >>= fun parsed => (after parsed.value).statements stop parsed.cursor.rest

namespace Follows

variable {cursor start : Cursor} {α β : Type} {before next : Reading} {tokens : List Token}
  {after : α → Reading}

theorem here (after : α → Reading) (parsed : Parsed start α) :
    Follows (after parsed.value) parsed.cursor.rest after (.ok parsed) :=
  fun _ => rfl

theorem step {parsed : Except SyntaxError (Parsed start α)} (hstep : Step cursor.peek before next none)
    (h : Follows next cursor.advance.rest after parsed) : Follows before cursor.rest after parsed := by
  intro stop
  rw [rest_eq_cons hstep.kind_ne.1, hstep.statements, h stop]

theorem fails {error : SyntaxError} (h : before.FailsOn cursor.peek error) :
    Follows before cursor.rest after (.error error : Except SyntaxError (Parsed start α)) := by
  intro stop
  obtain ⟨more, hrest⟩ := cursor.exists_rest_eq_cons
  rw [hrest, h.statements]
  rfl

theorem bind {middle : Cursor} {between : β → Reading} {first : Except SyntaxError (Parsed middle β)}
    {rest : Parsed middle β → Except SyntaxError (Parsed start α)}
    (hfirst : Follows before tokens between first)
    (hthen : ∀ parsed, first = .ok parsed →
      Follows (between parsed.value) parsed.cursor.rest after (rest parsed)) :
    Follows before tokens after (first >>= rest) := by
  intro stop
  rw [hfirst stop]
  cases first with
  | error error => rfl
  | ok parsed => exact hthen parsed rfl stop

end Follows

variable {cursor start : Cursor}

theorem follows_closing (hend : cursor.peek.kind.sum? = none ∧ cursor.peek.kind.product? = none)
    (head : Head) (level : Pending) (outer : List Pending) (inner : Expr) :
    Follows (.operator head {} (level :: outer) inner) cursor.rest
      (fun _ => .operator head level outer inner) (cursor.expect .rightParen .closingParen) := by
  unfold expect
  split
  · exact .step (.closing ‹_›) (.here (fun _ => .operator head level outer inner) ⟨_, _, _⟩)
  · refine .fails ?_
    unfold FailsOn
    revert hend
    cases hkind : cursor.peek.kind <;>
      simp_all [finish, Reading.step, unexpected, TokenKind.sum?, TokenKind.product?, expectedAfter]

/-- The reader follows the parser through every expression with fewer than `bound` tokens after its
first. -/
def FollowsExprs (bound : Nat) : Prop :=
  ∀ cursor : Cursor, cursor.left < bound → ∀ head outer,
    Follows (.operand head {} outer) cursor.rest (.operator head {} outer) cursor.expr

theorem FollowsExprs.mono {bound bound' : Nat} (h : FollowsExprs bound) (hle : bound' ≤ bound) :
    FollowsExprs bound' :=
  fun cursor hleft => h cursor (Nat.lt_of_lt_of_le hleft hle)

theorem follows_primary (hexprs : FollowsExprs cursor.left) (hsign : cursor.peek.kind.sign? = none)
    (head : Head) (level : Pending) (outer : List Pending) :
    Follows (.operand head level outer) cursor.rest (.operator head level outer) cursor.primary := by
  rw [primary]
  split
  · rename_i hkind
    split
    · exact .step (.number hkind (literal?_eq_some.mp ‹_›)) (.here _ ⟨_, _, _⟩)
    · refine .fails ?_
      simp_all [FailsOn, Reading.step]
  · exact .step (.identifier ‹_›) (.here _ ⟨_, _, _⟩)
  · rename_i hkind
    have hinside := hexprs cursor.advance (left_advance_lt (by simp [hkind])) head (level :: outer)
    refine .step (.opening hkind) (.bind hinside fun inner hinner => ?_)
    refine .bind (follows_closing (expr_end hinner) head level outer inner.value) fun closing _ => ?_
    exact .here (.operator head level outer) ⟨inner.value, closing.cursor, _⟩
  · refine .fails ?_
    unfold FailsOn
    revert hsign
    cases hkind : cursor.peek.kind <;> simp_all [finish, Reading.step, unexpected, TokenKind.sign?]

/-- Signs are taken off by the parser and put aside by the reader. -/
theorem follows_factor (hexprs : FollowsExprs cursor.left) (head : Head) (level : Pending)
    (outer : List Pending) :
    Follows (.operand head level outer) cursor.rest (.operator head level outer) cursor.factor := by
  induction cursor using induction_left generalizing level with
  | ind cursor ih =>
      cases hsign : cursor.peek.kind.sign? with
      | none =>
          rw [factor_of_none hsign]
          exact follows_primary hexprs hsign head level outer
      | some sign =>
          have hstep : Step cursor.peek (.operand head level outer)
              (.operand head { level with signs := sign :: level.signs } outer) none := .sign hsign
          have hne := hstep.kind_ne.1
          have hless := left_advance_lt hne
          have hoperand := ih _ hless (hexprs.mono (Nat.le_of_lt hless))
            { level with signs := sign :: level.signs }
          rw [factor_of_some hsign hne]
          refine .step hstep (.bind hoperand fun operand _ stop => ?_)
          apply statements_operator_congr
          · rfl
          · rfl

/-- The reader goes through the factors of a product with the product so far put aside. -/
theorem follows_products {left : Parsed start Expr} (hexprs : FollowsExprs left.cursor.left)
    (head : Head) (sum : Option (Expr × Operator)) (outer : List Pending) :
    Follows (.operator head { sum } outer left.value) left.cursor.rest (.operator head { sum } outer)
      (products left) := by
  induction left using Parsed.induction_left with
  | ind left ih =>
      cases hop : left.cursor.peek.kind.product? with
      | none =>
          rw [products_of_none hop]
          exact .here _ left
      | some op =>
          have hstep : Step left.cursor.peek (.operator head { sum } outer left.value)
              (.operand head { sum, product := some (left.value, op) } outer) none := .product hop
          have hne := hstep.kind_ne.1
          have hfactor := follows_factor (hexprs.mono (Nat.le_of_lt (left_advance_lt hne))) head
            { sum, product := some (left.value, op) } outer
          rw [products_of_some hop hne]
          refine .step hstep (.bind hfactor fun right _ stop => ?_)
          have hless := Parsed.left_join_lt op hne right
          have hmore : Follows (.operator head { sum } outer (left.join op hne right).value)
              right.cursor.rest (.operator head { sum } outer) (products (left.join op hne right)) :=
            ih _ hless (hexprs.mono (Nat.le_of_lt hless))
          rw [← hmore stop]
          apply statements_operator_congr
          · rfl
          · rfl

theorem follows_term (hexprs : FollowsExprs cursor.left) (head : Head)
    (sum : Option (Expr × Operator)) (outer : List Pending) :
    Follows (.operand head { sum } outer) cursor.rest (.operator head { sum } outer) cursor.term := by
  rw [term]
  refine .bind (follows_factor hexprs head { sum } outer) fun first _ => ?_
  exact follows_products (hexprs.mono (Nat.le_of_lt first.ahead.left_lt)) head sum outer

/-- The reader goes through the terms of a sum with the sum so far put aside, and has it together
when no factor can follow. -/
theorem follows_sums {left : Parsed start Expr} (hexprs : FollowsExprs left.cursor.left)
    (head : Head) (outer : List Pending) :
    Follows (.operator head {} outer left.value) left.cursor.rest (.operator head {} outer)
      (sums left) := by
  induction left using Parsed.induction_left with
  | ind left ih =>
      cases hop : left.cursor.peek.kind.sum? with
      | none =>
          rw [sums_of_none hop]
          exact .here _ left
      | some op =>
          have hstep : Step left.cursor.peek (.operator head {} outer left.value)
              (.operand head { sum := some (left.value, op) } outer) none := .sum hop
          have hne := hstep.kind_ne.1
          have hterm := follows_term (hexprs.mono (Nat.le_of_lt (left_advance_lt hne))) head
            (some (left.value, op)) outer
          rw [sums_of_some hop hne]
          refine .step hstep (.bind hterm fun right hright stop => ?_)
          have hless := Parsed.left_join_lt op hne right
          have hmore : Follows (.operator head {} outer (left.join op hne right).value)
              right.cursor.rest (.operator head {} outer) (sums (left.join op hne right)) :=
            ih _ hless (hexprs.mono (Nat.le_of_lt hless))
          rw [← hmore stop, statements_operator_settled (term_end hright)]
          rfl

theorem followsExprs (bound : Nat) : FollowsExprs bound := by
  induction bound with
  | zero => exact fun cursor hleft => absurd hleft (Nat.not_lt_zero _)
  | succ bound ih =>
      intro cursor hleft head outer
      have hexprs : FollowsExprs cursor.left := ih.mono (Nat.le_of_lt_succ hleft)
      rw [expr]
      refine .bind (follows_term hexprs head none outer) fun first _ => ?_
      exact follows_sums (hexprs.mono (Nat.le_of_lt first.ahead.left_lt)) head outer

theorem follows_expr (cursor : Cursor) (head : Head) (outer : List Pending) :
    Follows (.operand head {} outer) cursor.rest (.operator head {} outer) cursor.expr :=
  followsExprs (cursor.left + 1) cursor (Nat.lt_succ_self _) head outer

/-- The state in which a statement lacks nothing but its end. -/
def complete : Stmt → Reading
  | .assign target value => .operator (.assign target) {} [] value
  | .print value => .operator .print {} [] value

theorem complete_finish (stmt : Stmt) (pos : Nat) : (complete stmt).finish pos = .ok [stmt] := by
  cases stmt <;> rfl

theorem complete_step (stmt : Stmt) {token : Token} (hkind : token.kind = .newline) :
    Step token (complete stmt) .nothing (some stmt) := by
  cases stmt with
  | assign target value => exact .complete hkind
  | print value => exact .complete hkind

theorem complete_fails {stmt : Stmt}
    (hend : cursor.peek.kind.sum? = none ∧ cursor.peek.kind.product? = none)
    (hnewline : cursor.peek.kind ≠ .newline) (heof : cursor.peek.kind ≠ .eof) :
    (complete stmt).FailsOn cursor.peek (cursor.unexpected .endOfStatement) := by
  unfold FailsOn complete
  revert hend
  cases stmt <;> cases hkind : cursor.peek.kind <;>
    simp_all [Reading.step, unexpected, TokenKind.sum?, TokenKind.product?, expectedAfter]

theorem follows_stmt (hnewline : cursor.peek.kind ≠ .newline) (heof : cursor.peek.kind ≠ .eof) :
    Follows .nothing cursor.rest complete cursor.stmt := by
  by_cases hprint : cursor.peek.kind = .print
  · rw [stmt, eat?, dif_pos hprint]
    refine .step (.print hprint) (.bind (follows_expr cursor.advance .print []) fun value _ => ?_)
    exact .here complete ⟨.print value.value, value.cursor, _⟩
  · rw [stmt, eat?, dif_neg hprint]
    by_cases hname : cursor.peek.kind = .identifier
    · by_cases hequals : (cursor.peekAt 1).kind = .equals
      · have hvalue := follows_expr cursor.advance.advance (.assign cursor.peek.text) []
        rw [dif_pos ⟨hname, hequals⟩]
        rw [← peek_advance] at hequals
        refine .step (.name hname) (.step (.equals hequals) (.bind hvalue fun value _ => ?_))
        exact .here complete ⟨.assign cursor.peek.text value.value, value.cursor, _⟩
      · -- the reader takes the name in and fails on what comes after it, with the same error
        rw [dif_neg (fun h => hequals h.2)]
        refine .step (.name hname) (.fails ?_)
        rw [← peek_advance] at hequals
        unfold FailsOn
        cases hkind : cursor.advance.peek.kind <;> simp_all [finish, Reading.step, unexpected]
    · rw [dif_neg (fun h => hname h.1)]
      refine .fails ?_
      unfold FailsOn
      cases hkind : cursor.peek.kind <;> simp_all [Reading.step, unexpected]

end Reading

namespace Cursor

variable {cursor : Cursor}

theorem stmt_end {parsed : Parsed cursor Stmt} (h : stmt cursor = .ok parsed) :
    parsed.cursor.peek.kind.sum? = none ∧ parsed.cursor.peek.kind.product? = none := by
  unfold stmt at h
  split at h
  · obtain ⟨value, hvalue, h⟩ := bind_eq_ok.mp h
    cases h
    exact expr_end hvalue
  · split at h
    · obtain ⟨value, hvalue, h⟩ := bind_eq_ok.mp h
      cases h
      exact expr_end hvalue
    · cases h

theorem peek_skipNewlines (cursor : Cursor) : cursor.skipNewlines.peek.kind ≠ .newline := by
  fun_induction skipNewlines cursor with
  | case1 cursor newline _ ih => exact ih
  | case2 cursor hnone =>
      intro hkind
      rw [eat?, dif_pos hkind] at hnone
      cases hnone

theorem statements_skipNewlines (cursor : Cursor) (stop : Nat) :
    Reading.nothing.statements stop cursor.skipNewlines.rest =
      Reading.nothing.statements stop cursor.rest := by
  fun_induction skipNewlines cursor with
  | case1 cursor newline hsome ih =>
      unfold eat? at hsome
      split at hsome
      · rename_i hkind
        cases hsome
        have hskip : Reading.Step cursor.peek .nothing .nothing none := .skip hkind
        rw [ih, rest_eq_cons hskip.kind_ne.1, hskip.statements]
      · cases hsome
  | case2 cursor _ => rfl

theorem line_end {parsed : Parsed cursor Stmt} (h : line cursor = .ok parsed) :
    parsed.cursor.peek.kind ≠ .newline := by
  obtain ⟨stmt, -, h⟩ := bind_eq_ok.mp h
  split at h
  · cases h
    exact peek_skipNewlines stmt.cursor
  · rename_i heof
    cases h
    simp [heof]
  · cases h

/-- A statement that has been parsed with its end stands in front of what the reader makes of the
rest. -/
theorem statements_line (hnewline : cursor.peek.kind ≠ .newline) (heof : cursor.peek.kind ≠ .eof)
    (stop : Nat) :
    Reading.nothing.statements stop cursor.rest = cursor.line >>= fun first =>
      (first.value :: ·) <$> Reading.nothing.statements stop first.cursor.rest := by
  rw [Reading.follows_stmt hnewline heof stop, line]
  cases hstmt : cursor.stmt with
  | error error => rfl
  | ok stmt =>
      obtain ⟨more, hrest⟩ := stmt.cursor.exists_rest_eq_cons
      simp only [ok_bind]
      split
      · rename_i hkind
        have hskip : Reading.Step stmt.cursor.peek .nothing .nothing none := .skip hkind
        change _ = (stmt.value :: ·) <$>
          Reading.nothing.statements stop stmt.cursor.skipNewlines.rest
        rw [statements_skipNewlines, rest_eq_cons hskip.kind_ne.1, hskip.statements,
          (Reading.complete_step stmt.value hkind).statements_append]
        rfl
      · rename_i hkind
        simp only [pure_eq_ok, ok_bind]
        rw [hrest, Reading.statements_eof hkind, Reading.statements_eof hkind,
          Reading.complete_finish]
        rfl
      · rename_i hkind hkind'
        rw [hrest, (Reading.complete_fails (stmt_end hstmt) hkind hkind').statements]
        rfl

/-- The reader finds the statements that the parser finds. -/
theorem statements_eq (hnewline : cursor.peek.kind ≠ .newline) (stop : Nat) :
    Reading.nothing.statements stop cursor.rest = Prod.fst <$> cursor.statements := by
  induction cursor using induction_left with
  | ind cursor ih =>
      rw [statements]
      split
      · rename_i heof
        obtain ⟨more, hrest⟩ := cursor.exists_rest_eq_cons
        rw [hrest, Reading.statements_eof heof]
        rfl
      · rename_i heof
        rw [statements_line hnewline heof]
        cases hline : cursor.line with
        | error error => rfl
        | ok first =>
            have hothers := ih _ first.ahead.left_lt (line_end hline)
            simp only [ok_bind, hothers]
            cases first.cursor.statements <;> rfl

theorem program_eq (cursor : Cursor) (stop : Nat) :
    Prod.fst <$> cursor.program = Reading.nothing.statements stop cursor.rest := by
  rw [program, ← statements_skipNewlines, statements_eq (peek_skipNewlines cursor)]

end Cursor

/-- An end of input after all tokens, where the reader would have ended, makes no difference. -/
theorem Reading.statements_append_eof (reading : Reading) (stop stop' : Nat) (tokens : List Token) :
    reading.statements stop' (tokens ++ [⟨.eof, "", stop⟩]) = reading.statements stop tokens := by
  induction tokens generalizing reading with
  | nil => rfl
  | cons token tokens ih => simp only [List.cons_append, statements, ih]

/-- The parser and the reader make the same of any tokens. -/
theorem parse_eq_read (tokens : List Token) : parse tokens = read tokens := by
  have hrest : (Cursor.start tokens).rest = Cursor.terminated tokens := by
    simp [Cursor.rest, Cursor.start]
  rw [parse, (Cursor.start tokens).program_eq (endOf tokens), hrest, Cursor.terminated, read]
  split
  · rfl
  · exact Reading.nothing.statements_append_eof (endOf tokens) (endOf tokens) tokens

end StraightLine.Source
