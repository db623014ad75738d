import StraightLine.Source.Reading
import StraightLine.Proofs.Grammar
import StraightLine.Proofs.Outcome

/-! What one token can do to the reader, and what follows for tokens one after another. -/

namespace StraightLine.Source

open Outcome

theorem sign?_eq_some {kind : TokenKind} {sign : Sign} :
    kind.sign? = some sign ↔ (kind = .plus ∧ sign = .plus) ∨ (kind = .minus ∧ sign = .minus) := by
  cases kind <;> simp [TokenKind.sign?, eq_comm]

theorem sum?_eq_some {kind : TokenKind} {op : Operator} :
    kind.sum? = some op ↔ (kind = .plus ∧ op = .add) ∨ (kind = .minus ∧ op = .sub) := by
  cases kind <;> simp [TokenKind.sum?, eq_comm]

theorem product?_eq_some {kind : TokenKind} {op : Operator} :
    kind.product? = some op ↔ (kind = .star ∧ op = .mul) ∨ (kind = .slash ∧ op = .div) := by
  cases kind <;> simp [TokenKind.product?, eq_comm]

namespace Reading

/-- The ways in which a token is read. -/
inductive Step (token : Token) : Reading → Reading → Option Stmt → Prop where
  | skip (hkind : token.kind = .newline) : Step token .nothing .nothing none
  | print (hkind : token.kind = .print) : Step token .nothing (.operand .print {} []) none
  | name (hkind : token.kind = .identifier) : Step token .nothing (.name token) none
  | equals {start : Token} (hkind : token.kind = .equals) :
      Step token (.name start) (.operand (.assign start.text) {} []) none
  | number {head : Head} {level : Pending} {outer : List Pending} {value : Int}
      (hkind : token.kind = .number) (hvalue : Numeral token.text value) :
      Step token (.operand head level outer) (.operator head level outer (.int value)) none
  | identifier {head : Head} {level : Pending} {outer : List Pending}
      (hkind : token.kind = .identifier) :
      Step token (.operand head level outer) (.operator head level outer (.var token.text)) none
  | sign {head : Head} {level : Pending} {outer : List Pending} {sign : Sign}
      (hsign : token.kind.sign? = some sign) :
      Step token (.operand head level outer)
        (.operand head { level with signs := sign :: level.signs } outer) none
  | opening {head : Head} {level : Pending} {outer : List Pending}
      (hkind : token.kind = .leftParen) :
      Step token (.operand head level outer) (.operand head {} (level :: outer)) none
  | sum {head : Head} {level : Pending} {outer : List Pending} {last : Expr} {op : Operator}
      (hop : token.kind.sum? = some op) :
      Step token (.operator head level outer last)
        (.operand head { sum := some (level.expr last, op) } outer) none
  | product {head : Head} {level : Pending} {outer : List Pending} {last : Expr} {op : Operator}
      (hop : token.kind.product? = some op) :
      Step token (.operator head level outer last)
        (.operand head { sum := level.sum, product := some (level.term last, op) } outer) none
  | closing {head : Head} {level around : Pending} {outer : List Pending} {last : Expr}
      (hkind : token.kind = .rightParen) :
      Step token (.operator head level (around :: outer) last)
        (.operator head around outer (level.expr last)) none
  | complete {head : Head} {level : Pending} {last : Expr} (hkind : token.kind = .newline) :
      Step token (.operator head level [] last) .nothing (some (head.stmt (level.expr last)))

theorem step_of_eq_ok {token : Token} {reading after : Reading} {done : Option Stmt}
    (h : reading.step token = .ok (after, done)) : Step token reading after done := by
  cases reading with
  | nothing =>
      simp only [step] at h
      split at h
      · cases h
        exact .skip ‹_›
      · cases h
        exact .print ‹_›
      · cases h
        exact .name ‹_›
      · cases h
  | name start =>
      simp only [step] at h
      split at h
      · cases h
        exact .equals ‹_›
      · cases h
  | operand head level outer =>
      simp only [step] at h
      split at h
      · split at h
        · cases h
          exact .number ‹_› (literal?_eq_some.mp ‹_›)
        · cases h
      · cases h
        exact .identifier ‹_›
      · cases h
        exact .sign (sign?_eq_some.mpr (Or.inl ⟨‹_›, rfl⟩))
      · cases h
        exact .sign (sign?_eq_some.mpr (Or.inr ⟨‹_›, rfl⟩))
      · cases h
        exact .opening ‹_›
      · cases h
  | operator head level outer last =>
      simp only [step] at h
      split at h
      · cases h
        exact .sum (sum?_eq_some.mpr (Or.inl ⟨‹_›, rfl⟩))
      · cases h
        exact .sum (sum?_eq_some.mpr (Or.inr ⟨‹_›, rfl⟩))
      · cases h
        exact .product (product?_eq_some.mpr (Or.inl ⟨‹_›, rfl⟩))
      · cases h
        exact .product (product?_eq_some.mpr (Or.inr ⟨‹_›, rfl⟩))
      · split at h
        · cases h
          exact .closing ‹_›
        · cases h
      · split at h
        · cases h
          exact .complete ‹_›
        · cases h
      · cases h

theorem Step.eq_ok {token : Token} {reading after : Reading} {done : Option Stmt}
    (h : Step token reading after done) : reading.step token = .ok (after, done) := by
  cases h with
  | number hkind hvalue => simp [step, hkind, literal?_eq_some.mpr hvalue]
  | sign hsign =>
      rcases sign?_eq_some.mp hsign with ⟨hkind, rfl⟩ | ⟨hkind, rfl⟩
      · simp [step, hkind]
      · simp [step, hkind]
  | sum hop =>
      rcases sum?_eq_some.mp hop with ⟨hkind, rfl⟩ | ⟨hkind, rfl⟩
      · simp [step, hkind]
      · simp [step, hkind]
  | product hop =>
      rcases product?_eq_some.mp hop with ⟨hkind, rfl⟩ | ⟨hkind, rfl⟩
      · simp [step, hkind]
      · simp [step, hkind]
  | _ => simp [step, *]

/-- No token that is read is the end of input or a remainder. -/
theorem Step.kind_ne {token : Token} {reading after : Reading} {done : Option Stmt}
    (h : Step token reading after done) : token.kind ≠ .eof ∧ token.kind ≠ .percent := by
  cases h with
  | sign hsign => rcases sign?_eq_some.mp hsign with ⟨hkind, -⟩ | ⟨hkind, -⟩ <;> simp [hkind]
  | sum hop => rcases sum?_eq_some.mp hop with ⟨hkind, -⟩ | ⟨hkind, -⟩ <;> simp [hkind]
  | product hop => rcases product?_eq_some.mp hop with ⟨hkind, -⟩ | ⟨hkind, -⟩ <;> simp [hkind]
  | _ => simp [*]

theorem statements_eof {stop : Nat} {reading : Reading} {token : Token} {rest : List Token}
    (hkind : token.kind = .eof) :
    reading.statements stop (token :: rest) = reading.finish token.pos := by
  rw [statements, if_pos hkind]

/-- Tokens that complete statements complete those that the first token does, and then those that
the others do. -/
theorem statements_cons {stop : Nat} {reading : Reading} {token : Token} {rest : List Token}
    {program : Program} (hkind : token.kind ≠ .eof) :
    reading.statements stop (token :: rest) = .ok program ↔
      ∃ after done others, Step token reading after done ∧
        after.statements stop rest = .ok others ∧ program = done.toList ++ others := by
  rw [statements, if_neg hkind]
  simp only [bind_eq_ok]
  constructor
  · rintro ⟨⟨after, done⟩, hstep, others, hothers, h⟩
    cases h
    exact ⟨after, done, others, step_of_eq_ok hstep, hothers, rfl⟩
  · rintro ⟨after, done, others, hstep, hothers, rfl⟩
    exact ⟨(after, done), hstep.eq_ok, others, hothers, rfl⟩

/-- What a token completes stands in front of what the others complete. -/
theorem Step.statements_append {stop : Nat} {reading after : Reading} {token : Token}
    {done : Option Stmt} (h : Step token reading after done) (rest : List Token) :
    reading.statements stop (token :: rest) = (done.toList ++ ·) <$> after.statements stop rest := by
  rw [Reading.statements, if_neg h.kind_ne.1, h.eq_ok, ok_bind]
  cases hrest : after.statements stop rest with
  | ok others => simp [hrest]
  | error error => simp [hrest]

theorem Step.statements {stop : Nat} {reading after : Reading} {token : Token}
    (h : Step token reading after none) (rest : List Token) :
    reading.statements stop (token :: rest) = after.statements stop rest := by
  rw [h.statements_append]
  exact id_map _

/-- The reader fails on a token, which may be the end of input. -/
def FailsOn (reading : Reading) (token : Token) (error : SyntaxError) : Prop :=
  if token.kind = .eof then reading.finish token.pos = .error error
  else reading.step token = .error error

/-- Where the reader fails, it fails whatever comes after. -/
theorem FailsOn.statements {stop : Nat} {reading : Reading} {token : Token} {error : SyntaxError}
    (h : reading.FailsOn token error) (rest : List Token) :
    reading.statements stop (token :: rest) = .error error := by
  unfold FailsOn at h
  rw [Reading.statements]
  split at h
  · rwa [if_pos ‹_›]
  · rw [if_neg ‹_›, h]
    rfl

end Reading

end StraightLine.Source
