import StraightLine.Source.Parse

/-! Tokens read one after another, without ever going back or looking ahead. The reader's state says
what has been read of the statement at hand: for every open parenthesis, and for the statement
itself, the sum and the product that still wait for their right operand and the signs that wait for
theirs. An error names the token at hand, or the name in front of it that no `=` follows. -/

namespace StraightLine.Source

/-- What waits for the operand being read, inside one pair of parentheses: the left side of a sum or
difference, the left side of a product or quotient, and signs, the last one written first. -/
structure Pending where
  sum : Option (Expr × Operator) := none
  product : Option (Expr × Operator) := none
  signs : List Sign := []
  deriving DecidableEq, Repr

/-- The operator with its left side applied to a right side, or the right side alone. -/
def attach (left : Option (Expr × Operator)) (right : Expr) : Expr :=
  match left with
  | none => right
  | some (left, op) => .binary op left right

/-- The product or quotient that an operand completes. -/
def Pending.term (pending : Pending) (operand : Expr) : Expr :=
  attach pending.product (pending.signs.foldl (fun operand sign => .unary sign operand) operand)

/-- The whole expression that an operand completes. -/
def Pending.expr (pending : Pending) (operand : Expr) : Expr :=
  attach pending.sum (pending.term operand)

/-- How a statement began. -/
inductive Head where
  | assign (name : String)
  | print
  deriving DecidableEq, Repr

def Head.stmt : Head → Expr → Stmt
  | .assign name => .assign name
  | .print => .print

/-- What has been read of the statement at hand: nothing, a name that has to be followed by `=`, a
head with an expression that lacks its next operand, or a head with an expression whose last operand
is `last`. The parentheses still open around the innermost level are listed from the inside out. -/
inductive Reading where
  | nothing
  | name (token : Token)
  | operand (head : Head) (level : Pending) (outer : List Pending)
  | operator (head : Head) (level : Pending) (outer : List Pending) (last : Expr)
  deriving DecidableEq, Repr

/-- What may follow a complete expression at this depth of parentheses. -/
def expectedAfter (outer : List Pending) : Expected :=
  if outer.isEmpty then .endOfStatement else .closingParen

/-- Reads one token: what has been read after it, and the statement it completes if it does. -/
def Reading.step (token : Token) : Reading → Except SyntaxError (Reading × Option Stmt)
  | .nothing =>
      match token.kind with
      | .newline => .ok (.nothing, none)
      | .print => .ok (.operand .print {} [], none)
      | .identifier => .ok (.name token, none)
      | found => .error (.unexpectedToken token.pos .statement found)
  | .name start =>
      match token.kind with
      | .equals => .ok (.operand (.assign start.text) {} [], none)
      | _ => .error (.unexpectedToken start.pos .statement start.kind)
  | .operand head level outer =>
      match token.kind with
      | .number =>
          match literal? token.text with
          | some value => .ok (.operator head level outer (.int value), none)
          | none => .error (.invalidLiteral token.pos token.text)
      | .identifier => .ok (.operator head level outer (.var token.text), none)
      | .plus => .ok (.operand head { level with signs := .plus :: level.signs } outer, none)
      | .minus => .ok (.operand head { level with signs := .minus :: level.signs } outer, none)
      | .leftParen => .ok (.operand head {} (level :: outer), none)
      | found => .error (.unexpectedToken token.pos .operand found)
  | .operator head level outer last =>
      match token.kind with
      | .plus => .ok (.operand head { sum := some (level.expr last, .add) } outer, none)
      | .minus => .ok (.operand head { sum := some (level.expr last, .sub) } outer, none)
      | .star =>
          .ok (.operand head { sum := level.sum, product := some (level.term last, .mul) } outer,
            none)
      | .slash =>
          .ok (.operand head { sum := level.sum, product := some (level.term last, .div) } outer,
            none)
      | .rightParen =>
          match outer with
          | around :: outer => .ok (.operator head around outer (level.expr last), none)
          | [] => .error (.unexpectedToken token.pos .endOfStatement .rightParen)
      | .newline =>
          match outer with
          | [] => .ok (.nothing, some (head.stmt (level.expr last)))
          | _ :: _ => .error (.unexpectedToken token.pos .closingParen .newline)
      | found => .error (.unexpectedToken token.pos (expectedAfter outer) found)

/-- Reads the end of input at the byte offset `pos`: the statement it completes, if any. -/
def Reading.finish (pos : Nat) : Reading → Except SyntaxError (List Stmt)
  | .nothing => .ok []
  | .name start => .error (.unexpectedToken start.pos .statement start.kind)
  | .operand _ _ _ => .error (.unexpectedToken pos .operand .eof)
  | .operator head level [] last => .ok [head.stmt (level.expr last)]
  | .operator _ _ (_ :: _) _ => .error (.unexpectedToken pos .closingParen .eof)

/-- The statements that tokens complete after `reading`. Input ends at the first end-of-input token,
or after the last token at the byte offset `stop`. -/
def Reading.statements (stop : Nat) : Reading → List Token → Except SyntaxError (List Stmt)
  | reading, [] => reading.finish stop
  | reading, token :: rest =>
      if token.kind = .eof then reading.finish token.pos
      else do
        let (reading, done) ← reading.step token
        return done.toList ++ (← reading.statements stop rest)

/-- The program that the reader makes of tokens, or the first fault. -/
def read (tokens : List Token) : Except SyntaxError Program :=
  Reading.nothing.statements (endOf tokens) tokens

end StraightLine.Source
