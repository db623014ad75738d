/-! Programs as they are written: assignments to named variables and prints, over integer
expressions. -/

namespace StraightLine

/-- The sign in front of an operand. -/
inductive Sign where
  | plus
  | minus
  deriving DecidableEq, Repr

def Sign.symbol : Sign → String
  | .plus => "+"
  | .minus => "-"

namespace Source

/-- The operators a program may write between two operands. -/
inductive Operator where
  | add
  | sub
  | mul
  | div
  | rem
  deriving DecidableEq, Repr

def Operator.symbol : Operator → String
  | .add => "+"
  | .sub => "-"
  | .mul => "*"
  | .div => "/"
  | .rem => "%"

/-- Expressions over named variables. -/
inductive Expr where
  | int (value : Int)
  | var (name : String)
  | unary (sign : Sign) (operand : Expr)
  | binary (op : Operator) (left right : Expr)
  deriving DecidableEq, Repr

/-- An expression with every signed and every two-operand part in parentheses. -/
def Expr.render : Expr → String
  | .int value => toString value
  | .var name => name
  | .unary sign operand => "(" ++ sign.symbol ++ operand.render ++ ")"
  | .binary op left right =>
      "(" ++ left.render ++ " " ++ op.symbol ++ " " ++ right.render ++ ")"

/-- A statement assigns to a variable or prints a value. -/
inductive Stmt where
  | assign (name : String) (value : Expr)
  | print (value : Expr)
  deriving DecidableEq, Repr

def Stmt.value : Stmt → Expr
  | .assign _ value => value
  | .print value => value

/-- A statement on a line of its own, without the line's end. -/
def Stmt.render : Stmt → String
  | .assign name value => name ++ " = " ++ value.render
  | .print value => "print " ++ value.render

/-- A program is its statements in order. -/
abbrev Program := List Stmt

/-- A program as text, one statement a line. -/
def Program.render (program : Program) : String :=
  "\n".intercalate (program.map Stmt.render)

end Source

end StraightLine
