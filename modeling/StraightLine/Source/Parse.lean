import StraightLine.Source
import StraightLine.SyntaxError
import StraightLine.Text.Decimal

/-! Parsing by recursive descent, with one function for each phrase of the grammar. A cursor stands
at one of the tokens, and the last token is an end of input: there the cursor stays, however often
it is told to go on. The parser goes on from a token only after it has found that the token is no
end of input; this is why it comes to an end, and what its results carry with them. -/

namespace StraightLine

/-- The sign that a token may stand for in front of an operand. -/
def TokenKind.sign? : TokenKind → Option Sign
  | .plus => some .plus
  | .minus => some .minus
  | _ => none

/-- The operator that a token may stand for between terms. -/
def TokenKind.sum? : TokenKind → Option Source.Operator
  | .plus => some .add
  | .minus => some .sub
  | _ => none

/-- The operator that a token may stand for between factors. -/
def TokenKind.product? : TokenKind → Option Source.Operator
  | .star => some .mul
  | .slash => some .div
  | _ => none

theorem TokenKind.ne_eof_of_sign? {kind : TokenKind} {sign : Sign} (h : kind.sign? = some sign) :
    kind ≠ .eof := by
  rintro rfl
  cases h

theorem TokenKind.ne_eof_of_sum? {kind : TokenKind} {op : Source.Operator}
    (h : kind.sum? = some op) : kind ≠ .eof := by
  rintro rfl
  cases h

theorem TokenKind.ne_eof_of_product? {kind : TokenKind} {op : Source.Operator}
    (h : kind.product? = some op) : kind ≠ .eof := by
  rintro rfl
  cases h

namespace Source

/-- The integers that a literal may stand for, from `-2 ^ 63` to `2 ^ 63 - 1`. -/
def FitsLiteral (value : Int) : Prop :=
  -9223372036854775808 ≤ value ∧ value ≤ 9223372036854775807

instance (value : Int) : Decidable (FitsLiteral value) :=
  inferInstanceAs (Decidable (_ ∧ _))

/-- The value of a number token. -/
def literal? (text : String) : Option Int :=
  match Text.signedDecimal? text.toList with
  | some value => if FitsLiteral value then some value else none
  | none => none

/-- The byte offset just past the last token. -/
def endOf (tokens : List Token) : Nat :=
  match tokens.getLast? with
  | some last => last.stop
  | none => 0

/-- A place among tokens of which the last is an end of input. -/
structure Cursor where
  tokens : Array Token
  pos : Nat
  pos_lt : pos < tokens.size
  ends : tokens.back?.map Token.kind = some .eof

namespace Cursor

/-- The tokens with an end of input after them, unless the last one is an end of input already. -/
def terminated (tokens : List Token) : List Token :=
  if tokens.getLast?.map Token.kind = some .eof then tokens
  else tokens ++ [⟨.eof, "", endOf tokens⟩]

theorem getLast?_terminated (tokens : List Token) :
    (terminated tokens).getLast?.map Token.kind = some .eof := by
  unfold terminated
  split
  · assumption
  · simp

def start (tokens : List Token) : Cursor where
  tokens := (terminated tokens).toArray
  pos := 0
  pos_lt := by
    have hlast := getLast?_terminated tokens
    cases hcase : terminated tokens with
    | nil => simp [hcase] at hlast
    | cons token rest => simp
  ends := by simpa using getLast?_terminated tokens

/-- The token so many places ahead, or the last one if there are not so many. -/
def peekAt (cursor : Cursor) (offset : Nat) : Token :=
  have hbound : min (cursor.pos + offset) (cursor.tokens.size - 1) < cursor.tokens.size := by
    have := cursor.pos_lt
    omega
  cursor.tokens[min (cursor.pos + offset) (cursor.tokens.size - 1)]

def peek (cursor : Cursor) : Token :=
  cursor.peekAt 0

/-- The cursor at the next token, or where it is if there is none. -/
def advance (cursor : Cursor) : Cursor :=
  if h : cursor.pos < cursor.tokens.size - 1 then
    { cursor with pos := cursor.pos + 1, pos_lt := by omega }
  else cursor

/-- How many tokens come after the one at the cursor. -/
def left (cursor : Cursor) : Nat :=
  cursor.tokens.size - 1 - cursor.pos

theorem peek_eq (cursor : Cursor) : cursor.tokens[cursor.pos]? = some cursor.peek := by
  have hpos := cursor.pos_lt
  have hmin : min cursor.pos (cursor.tokens.size - 1) = cursor.pos := by omega
  simp [peek, peekAt, hmin, hpos]

/-- At the last token stands an end of input, so anywhere else there is a next one. -/
theorem pos_lt_last {cursor : Cursor} (h : cursor.peek.kind ≠ .eof) :
    cursor.pos < cursor.tokens.size - 1 := by
  have hpos := cursor.pos_lt
  refine Nat.lt_of_not_le fun hlast => h ?_
  have hends := cursor.ends
  have hlast : cursor.tokens.size - 1 = cursor.pos := by omega
  rw [Array.back?_eq_getElem?, hlast, peek_eq] at hends
  simpa using hends

theorem left_advance_lt {cursor : Cursor} (h : cursor.peek.kind ≠ .eof) :
    cursor.advance.left < cursor.left := by
  have hlast := pos_lt_last h
  simp only [advance, hlast, left, dite_true]
  omega

/-- Looking one token ahead is looking at the token that the cursor goes on to. -/
theorem peek_advance (cursor : Cursor) : cursor.advance.peek = cursor.peekAt 1 := by
  have hpos := cursor.pos_lt
  unfold advance
  split
  · rfl
  · have hmin : min (cursor.pos + 0) (cursor.tokens.size - 1) =
        min (cursor.pos + 1) (cursor.tokens.size - 1) := by omega
    simp only [peek, peekAt, hmin]

/-- A cursor is ahead of another if one comes to it from there by going on from tokens none of which
is an end of input. -/
inductive Ahead : Cursor → Cursor → Prop where
  | next {cursor : Cursor} (h : cursor.peek.kind ≠ .eof) : Ahead cursor cursor.advance
  | trans {first second third : Cursor} (h : Ahead first second) (h' : Ahead second third) :
      Ahead first third

theorem Ahead.left_lt {cursor after : Cursor} (h : Ahead cursor after) :
    after.left < cursor.left := by
  induction h with
  | next h => exact left_advance_lt h
  | trans _ _ ih ih' => exact Nat.lt_trans ih' ih

/-- The error that the token at the cursor is. -/
def unexpected (cursor : Cursor) (expected : Expected) : SyntaxError :=
  .unexpectedToken cursor.peek.pos expected cursor.peek.kind

/-- What has been parsed from a cursor on, and the cursor behind it. -/
structure Parsed (start : Cursor) (α : Type) where
  value : α
  cursor : Cursor
  ahead : start.Ahead cursor

/-- The cursor behind a token of this kind, if the token at the cursor is one. -/
def eat? (cursor : Cursor) (kind : TokenKind) (hkind : kind ≠ .eof := by decide) :
    Option (Parsed cursor Token) :=
  if h : cursor.peek.kind = kind then
    some ⟨cursor.peek, cursor.advance, .next (by rwa [h])⟩
  else none

/-- A token of this kind, which has to be the one at the cursor. -/
def expect (cursor : Cursor) (kind : TokenKind) (expected : Expected)
    (hkind : kind ≠ .eof := by decide) : Except SyntaxError (Parsed cursor Token) :=
  if h : cursor.peek.kind = kind then
    .ok ⟨cursor.peek, cursor.advance, .next (by rwa [h])⟩
  else .error (cursor.unexpected expected)

/-- The cursor behind all newlines that come next. -/
def skipNewlines (cursor : Cursor) : Cursor :=
  match cursor.eat? .newline with
  | some newline => newline.cursor.skipNewlines
  | none => cursor
termination_by cursor.left
decreasing_by exact newline.ahead.left_lt

theorem skipNewlines_eq_or_ahead (cursor : Cursor) :
    cursor.skipNewlines = cursor ∨ cursor.Ahead cursor.skipNewlines := by
  fun_induction skipNewlines cursor with
  | case1 cursor newline _ ih =>
      rcases ih with hstays | hahead
      · rw [hstays]
        exact Or.inr newline.ahead
      · exact Or.inr (newline.ahead.trans hahead)
  | case2 cursor _ => exact Or.inl rfl

/-- What has been parsed, with the newlines behind it passed. -/
def Parsed.skipNewlines {start : Cursor} {α : Type} (parsed : Parsed start α) : Parsed start α where
  value := parsed.value
  cursor := parsed.cursor.skipNewlines
  ahead := by
    rcases skipNewlines_eq_or_ahead parsed.cursor with hstays | hahead
    · rw [hstays]
      exact parsed.ahead
    · exact parsed.ahead.trans hahead

/-- An operation on what has been parsed and what is parsed behind the operator that comes next. -/
def Parsed.join {start : Cursor} (left : Parsed start Expr) (op : Operator)
    (h : left.cursor.peek.kind ≠ .eof) (right : Parsed left.cursor.advance Expr) :
    Parsed start Expr :=
  ⟨.binary op left.value right.value, right.cursor,
    (left.ahead.trans (.next h)).trans right.ahead⟩

/-- What has been parsed behind a sign, with the sign. -/
def Parsed.signed {cursor : Cursor} (operand : Parsed cursor.advance Expr) (sign : Sign)
    (h : cursor.peek.kind ≠ .eof) : Parsed cursor Expr :=
  ⟨.unary sign operand.value, operand.cursor, .trans (.next h) operand.ahead⟩

mutual

/-- A term, and the terms after it as long as a plus or minus comes next. -/
def expr (cursor : Cursor) : Except SyntaxError (Parsed cursor Expr) := do
  let first ← term cursor
  sums first
termination_by (cursor.left, 3)
decreasing_by
  · exact .right _ (by decide)
  · exact .left _ _ first.ahead.left_lt

def sums {start : Cursor} (left : Parsed start Expr) : Except SyntaxError (Parsed start Expr) :=
  match h : left.cursor.peek.kind.sum? with
  | some op => do
      have hne := TokenKind.ne_eof_of_sum? h
      let right ← term left.cursor.advance
      sums (left.join op hne right)
  | none => .ok left
termination_by (left.cursor.left, 0)
decreasing_by
  · exact .left _ _ (left_advance_lt hne)
  · exact .left _ _ ((Ahead.next hne).trans right.ahead).left_lt

def term (cursor : Cursor) : Except SyntaxError (Parsed cursor Expr) := do
  let first ← factor cursor
  products first
termination_by (cursor.left, 2)
decreasing_by
  · exact .right _ (by decide)
  · exact .left _ _ first.ahead.left_lt

def products {start : Cursor} (left : Parsed start Expr) :
    Except SyntaxError (Parsed start Expr) :=
  match h : left.cursor.peek.kind.product? with
  | some op => do
      have hne := TokenKind.ne_eof_of_product? h
      let right ← factor left.cursor.advance
      products (left.join op hne right)
  | none => .ok left
termination_by (left.cursor.left, 0)
decreasing_by
  · exact .left _ _ (left_advance_lt hne)
  · exact .left _ _ ((Ahead.next hne).trans right.ahead).left_lt

def factor (cursor : Cursor) : Except SyntaxError (Parsed cursor Expr) :=
  match h : cursor.peek.kind.sign? with
  | some sign => do
      have hne := TokenKind.ne_eof_of_sign? h
      let operand ← factor cursor.advance
      return operand.signed sign hne
  | none => primary cursor
termination_by (cursor.left, 1)
decreasing_by
  · exact .left _ _ (left_advance_lt hne)
  · exact .right _ (by decide)

def primary (cursor : Cursor) : Except SyntaxError (Parsed cursor Expr) :=
  match h : cursor.peek.kind with
  | .number =>
      match literal? cursor.peek.text with
      | some value => .ok ⟨.int value, cursor.advance, .next (by simp [h])⟩
      | none => .error (.invalidLiteral cursor.peek.pos cursor.peek.text)
  | .identifier => .ok ⟨.var cursor.peek.text, cursor.advance, .next (by simp [h])⟩
  | .leftParen => do
      let inner ← expr cursor.advance
      let closing ← inner.cursor.expect .rightParen .closingParen
      return ⟨inner.value, closing.cursor,
        .trans (.next (by simp [h])) (inner.ahead.trans closing.ahead)⟩
  | _ => .error (cursor.unexpected .operand)
termination_by (cursor.left, 0)
decreasing_by exact .left _ _ (left_advance_lt (by simp [h]))

end

/-- A print, or an assignment: a name is the start of one if an equals sign comes after it. -/
def stmt (cursor : Cursor) : Except SyntaxError (Parsed cursor Stmt) :=
  match cursor.eat? .print with
  | some head => do
      let value ← expr head.cursor
      return ⟨.print value.value, value.cursor, head.ahead.trans value.ahead⟩
  | none =>
      if h : cursor.peek.kind = .identifier ∧ (cursor.peekAt 1).kind = .equals then do
        have hname : cursor.Ahead cursor.advance := .next (by simp [h.1])
        have hequals : cursor.advance.Ahead cursor.advance.advance :=
          .next (by simp [peek_advance, h.2])
        let value ← expr cursor.advance.advance
        return ⟨.assign cursor.peek.text value.value, value.cursor,
          (hname.trans hequals).trans value.ahead⟩
      else .error (cursor.unexpected .statement)

/-- A statement with what has to end it: newlines, all of which are passed, or the end of input. -/
def line (cursor : Cursor) : Except SyntaxError (Parsed cursor Stmt) := do
  let stmt ← cursor.stmt
  match stmt.cursor.peek.kind with
  | .newline => return stmt.skipNewlines
  | .eof => return stmt
  | _ => throw (stmt.cursor.unexpected .endOfStatement)

/-- The statements up to an end of input, and the cursor there. -/
def statements (cursor : Cursor) : Except SyntaxError (Program × Cursor) :=
  if cursor.peek.kind = .eof then .ok ([], cursor)
  else do
    let first ← cursor.line
    let (rest, stop) ← first.cursor.statements
    return (first.value :: rest, stop)
termination_by cursor.left
decreasing_by exact first.ahead.left_lt

/-- A whole program, with newlines before its first statement, and the cursor behind it. -/
def program (cursor : Cursor) : Except SyntaxError (Program × Cursor) :=
  cursor.skipNewlines.statements

end Cursor

/-- The program that tokens spell, or the first fault. -/
def parse (tokens : List Token) : Except SyntaxError Program :=
  Prod.fst <$> (Cursor.start tokens).program

end Source

end StraightLine
