import StraightLine.Proofs.ParseSteps

/-! What the reader accepts the grammar derives. The invariant is that a state spells the tokens
read of the statement at hand: the sums and products that wait are whole phrases with an operator
after them, the signs that wait are the tokens in front of the next operand, and an open parenthesis
stands after each level that waits outside. Every step keeps it, and a step that completes a
statement has a derivation of it. -/

namespace StraightLine.Source

/-- Tokens of a left operand and its operator, or none where nothing waits. -/
def SpellsLeft (phrase : Phrase) (op? : TokenKind → Option Operator) :
    Option (Expr × Operator) → List Token → Prop
  | none, tokens => tokens = []
  | some (left, op), tokens =>
      ∃ before token, tokens = before ++ [token] ∧ Derives phrase before left ∧
        op? token.kind = some op

/-- Tokens of signs, of which the last one is listed first. -/
def SpellsSigns : List Sign → List Token → Prop
  | [], tokens => tokens = []
  | sign :: signs, tokens =>
      ∃ before token, tokens = before ++ [token] ∧ SpellsSigns signs before ∧
        token.kind.sign? = some sign

/-- Tokens of what waits inside one pair of parentheses. -/
structure Pending.Spells (level : Pending) (sums products signs : List Token) : Prop where
  sum : SpellsLeft .expr TokenKind.sum? level.sum sums
  product : SpellsLeft .term TokenKind.product? level.product products
  signs : SpellsSigns level.signs signs

/-- Tokens of all levels that wait around open parentheses, the parentheses included. -/
def SpellsOuter : List Pending → List Token → Prop
  | [], tokens => tokens = []
  | around :: outer, tokens =>
      ∃ before sums products signs paren,
        tokens = before ++ (sums ++ products ++ signs) ++ [paren] ∧ SpellsOuter outer before ∧
        around.Spells sums products signs ∧ paren.kind = .leftParen

/-- Tokens of a statement up to its expression. -/
def Head.Spells : Head → List Token → Prop
  | .print, tokens => ∃ token, tokens = [token] ∧ token.kind = .print
  | .assign name, tokens =>
      ∃ token equals, tokens = [token, equals] ∧ token.kind = .identifier ∧ token.text = name ∧
        equals.kind = .equals

/-- Tokens of what has been read of the statement at hand. -/
def Reading.Spells : Reading → List Token → Prop
  | .nothing, tokens => tokens = []
  | .name token, tokens => tokens = [token] ∧ token.kind = .identifier
  | .operand head level outer, tokens =>
      ∃ start before sums products signs,
        tokens = start ++ before ++ (sums ++ products ++ signs) ∧ head.Spells start ∧
        SpellsOuter outer before ∧ level.Spells sums products signs
  | .operator head level outer last, tokens =>
      ∃ start before sums products signs final,
        tokens = start ++ before ++ (sums ++ products ++ signs) ++ final ∧ head.Spells start ∧
        SpellsOuter outer before ∧ level.Spells sums products signs ∧
        Derives .primary final last

theorem SpellsSigns.factor {signs : List Sign} {tokens final : List Token} {tree : Expr}
    (hsigns : SpellsSigns signs tokens) (h : Derives .factor final tree) :
    Derives .factor (tokens ++ final)
      (signs.foldl (fun operand sign => .unary sign operand) tree) := by
  induction signs generalizing tokens final tree with
  | nil =>
      cases hsigns
      exact h
  | cons sign signs ih =>
      obtain ⟨before, token, rfl, hbefore, hsign⟩ := hsigns
      rw [List.append_assoc]
      exact ih hbefore (.signed hsign h)

namespace Pending.Spells

variable {level : Pending} {sums products signs final : List Token} {last : Expr}

theorem term (hlevel : level.Spells sums products signs) (h : Derives .primary final last) :
    Derives .term (products ++ signs ++ final) (level.term last) := by
  have hfactor := hlevel.signs.factor (.primary h)
  have hproduct := hlevel.product
  unfold Pending.term
  rw [List.append_assoc]
  cases hleft : level.product with
  | none =>
      rw [hleft] at hproduct
      cases hproduct
      exact hfactor.term_of_factor
  | some waiting =>
      obtain ⟨left, op⟩ := waiting
      rw [hleft] at hproduct
      obtain ⟨before, token, rfl, hbefore, hop⟩ := hproduct
      rw [List.append_assoc]
      exact hbefore.term_snoc hop hfactor

theorem expr (hlevel : level.Spells sums products signs) (h : Derives .primary final last) :
    Derives .expr (sums ++ products ++ signs ++ final) (level.expr last) := by
  have hterm := hlevel.term h
  have hsum := hlevel.sum
  unfold Pending.expr
  rw [List.append_assoc, List.append_assoc, ← List.append_assoc products]
  cases hleft : level.sum with
  | none =>
      rw [hleft] at hsum
      cases hsum
      exact hterm.expr_of_term
  | some waiting =>
      obtain ⟨left, op⟩ := waiting
      rw [hleft] at hsum
      obtain ⟨before, token, rfl, hbefore, hop⟩ := hsum
      rw [List.append_assoc]
      exact hbefore.expr_snoc hop hterm

/-- Nothing waits inside a parenthesis that has just been opened. -/
theorem empty : Pending.Spells {} [] [] [] :=
  ⟨rfl, rfl, rfl⟩

/-- An expression waits for the term after an operator. -/
theorem ofSum {tokens : List Token} {token : Token} {left : Expr} {op : Operator}
    (h : Derives .expr tokens left) (hop : token.kind.sum? = some op) :
    Pending.Spells { sum := some (left, op) } (tokens ++ [token]) [] [] :=
  ⟨⟨tokens, token, rfl, h, hop⟩, rfl, rfl⟩

/-- A term waits for the factor after an operator, and what waited for the term still does. -/
theorem ofProduct {tokens : List Token} {token : Token} {left : Expr} {op : Operator}
    (hlevel : level.Spells sums products signs) (h : Derives .term tokens left)
    (hop : token.kind.product? = some op) :
    Pending.Spells { sum := level.sum, product := some (left, op) } sums (tokens ++ [token]) [] :=
  ⟨hlevel.sum, ⟨tokens, token, rfl, h, hop⟩, rfl⟩

theorem sign {token : Token} {sign : Sign} (hlevel : level.Spells sums products signs)
    (hsign : token.kind.sign? = some sign) :
    Pending.Spells { level with signs := sign :: level.signs } sums products
      (signs ++ [token]) :=
  ⟨hlevel.sum, hlevel.product, ⟨signs, token, rfl, hlevel.signs, hsign⟩⟩

end Pending.Spells

namespace Reading

variable {token : Token} {reading after : Reading} {done : Option Stmt} {tokens : List Token}

theorem Spells.stmt {head : Head} {level : Pending} {last : Expr}
    (h : (Reading.operator head level [] last).Spells tokens) :
    DerivesStmt tokens (head.stmt (level.expr last)) := by
  obtain ⟨start, before, sums, products, signs, final, rfl, hstart, rfl, hlevel, hfinal⟩ := h
  have hexpr := hlevel.expr hfinal
  rw [List.append_nil, List.append_assoc]
  cases head with
  | print =>
      obtain ⟨token, rfl, hkind⟩ := hstart
      exact .print hkind hexpr
  | assign name =>
      obtain ⟨token, equals, rfl, hname, rfl, hequals⟩ := hstart
      exact .assign hname hequals hexpr

/-- A step inside a statement adds its token to those that the state spells. -/
theorem Step.spells (h : Step token reading after done) (hafter : after ≠ .nothing)
    (hspells : reading.Spells tokens) : done = none ∧ after.Spells (tokens ++ [token]) := by
  cases h with
  | skip hkind => exact absurd rfl hafter
  | complete hkind => exact absurd rfl hafter
  | print hkind =>
      cases hspells
      exact ⟨rfl, [token], [], [], [], [], rfl, ⟨token, rfl, hkind⟩, rfl, .empty⟩
  | name hkind =>
      cases hspells
      exact ⟨rfl, rfl, hkind⟩
  | equals hkind =>
      obtain ⟨rfl, hname⟩ := hspells
      exact ⟨rfl, [_, token], [], [], [], [], rfl, ⟨_, token, rfl, hname, rfl, hkind⟩, rfl, .empty⟩
  | number hkind hvalue =>
      obtain ⟨start, before, sums, products, signs, rfl, hstart, hbefore, hlevel⟩ := hspells
      exact ⟨rfl, start, before, sums, products, signs, [token], rfl, hstart, hbefore, hlevel,
        .number hkind hvalue⟩
  | identifier hkind =>
      obtain ⟨start, before, sums, products, signs, rfl, hstart, hbefore, hlevel⟩ := hspells
      exact ⟨rfl, start, before, sums, products, signs, [token], rfl, hstart, hbefore, hlevel,
        .name hkind⟩
  | sign hsign =>
      obtain ⟨start, before, sums, products, signs, rfl, hstart, hbefore, hlevel⟩ := hspells
      exact ⟨rfl, start, before, sums, products, signs ++ [token], by simp, hstart, hbefore,
        hlevel.sign hsign⟩
  | opening hkind =>
      obtain ⟨start, before, sums, products, signs, rfl, hstart, hbefore, hlevel⟩ := hspells
      refine ⟨rfl, start, before ++ (sums ++ products ++ signs) ++ [token], [], [], [], by simp,
        hstart, ?_, .empty⟩
      exact ⟨before, sums, products, signs, token, rfl, hbefore, hlevel, hkind⟩
  | sum hop =>
      obtain ⟨start, before, sums, products, signs, final, rfl, hstart, hbefore, hlevel, hfinal⟩ :=
        hspells
      exact ⟨rfl, start, before, _, [], [], by simp, hstart, hbefore,
        .ofSum (hlevel.expr hfinal) hop⟩
  | product hop =>
      obtain ⟨start, before, sums, products, signs, final, rfl, hstart, hbefore, hlevel, hfinal⟩ :=
        hspells
      exact ⟨rfl, start, before, sums, _, [], by simp, hstart, hbefore,
        hlevel.ofProduct (hlevel.term hfinal) hop⟩
  | closing hkind =>
      obtain ⟨start, before, sums, products, signs, final, rfl, hstart, hbefore, hlevel, hfinal⟩ :=
        hspells
      obtain ⟨outside, sums', products', signs', paren, rfl, houtside, haround, hparen⟩ := hbefore
      exact ⟨rfl, start, outside, sums', products', signs', _, by simp, hstart, houtside, haround,
        .parens hparen hkind (hlevel.expr hfinal)⟩

/-- The end of input completes the statement at hand, if there is one. -/
theorem finish_derives {pos : Nat} {program : Program} (hspells : reading.Spells tokens)
    (h : reading.finish pos = .ok program) : DerivesLines tokens program := by
  cases reading with
  | nothing =>
      cases hspells
      cases h
      exact .done
  | name start => cases h
  | operand head level outer => cases h
  | operator head level outer last =>
      cases outer with
      | nil =>
          cases h
          exact .last hspells.stmt
      | cons around outer => cases h

/-- Accepted tokens derive the program read from them. -/
theorem statements_derives {stop : Nat} {before : List Token} {program : Program}
    (hspells : reading.Spells before) (h : reading.statements stop tokens = .ok program) :
    DerivesProgram (before ++ untilEof tokens) program := by
  have hnone : Newlines [] := by simp [Newlines]
  induction tokens generalizing reading before program with
  | nil =>
      rw [untilEof, List.takeWhile_nil, List.append_nil]
      exact .intro hnone (finish_derives hspells h)
  | cons token rest ih =>
      by_cases heof : token.kind = .eof
      · rw [statements_eof heof] at h
        rw [untilEof_eof heof, List.append_nil]
        exact .intro hnone (finish_derives hspells h)
      · obtain ⟨after, done, others, hstep, hothers, rfl⟩ := (statements_cons heof).mp h
        rw [untilEof_cons heof]
        by_cases hafter : after = .nothing
        · -- only a newline leads back to the state between statements
          subst hafter
          have hnothing : Reading.nothing.Spells [] := rfl
          have hrest := ih hnothing hothers
          cases hstep with
          | skip hkind =>
              cases hspells
              exact .newline hkind hrest
          | complete hkind => exact .line hspells.stmt hkind hrest
        · obtain ⟨rfl, hnext⟩ := hstep.spells hafter hspells
          have hrest := ih hnext hothers
          rwa [List.append_assoc] at hrest

end Reading

end StraightLine.Source
