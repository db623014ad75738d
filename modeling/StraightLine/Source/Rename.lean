import StraightLine.Source.Bind

/-! Other names for the variables of a program. A renaming puts another name in the place of every
name, where a variable is assigned to as well as where it is read. -/

namespace StraightLine

def Fault.rename (f : String → String) : Fault → Fault
  | .undefinedVariable name => .undefinedVariable (f name)
  | .literalOutOfRange value => .literalOutOfRange value
  | .unsupportedOperator op => .unsupportedOperator op
  | .divisionByZero => .divisionByZero

namespace Source

/-- The names in an expression, from left to right. -/
def Expr.names : Expr → List String
  | .int _ => []
  | .var name => [name]
  | .unary _ operand => operand.names
  | .binary _ left right => left.names ++ right.names

def Stmt.names : Stmt → List String
  | .assign name value => name :: value.names
  | .print value => value.names

def Program.names (program : Program) : List String :=
  program.flatMap Stmt.names

def Expr.rename (f : String → String) : Expr → Expr
  | .int value => .int value
  | .var name => .var (f name)
  | .unary sign operand => .unary sign (operand.rename f)
  | .binary op left right => .binary op (left.rename f) (right.rename f)

def Stmt.rename (f : String → String) : Stmt → Stmt
  | .assign name value => .assign (f name) (value.rename f)
  | .print value => .print (value.rename f)

def Program.rename (f : String → String) (program : Program) : Program :=
  program.map (Stmt.rename f)

end Source

end StraightLine
