import StraightLine.Bound

/-! Numbered programs read back into names. A number that the table of names does not reach has no
name, and then there is nothing to read. -/

namespace StraightLine

/-- The operator of an instruction as a program writes it. -/
def Arith.operator : Arith → Source.Operator
  | .add => .add
  | .sub => .sub
  | .mul => .mul
  | .div => .div

namespace Bound

/-- An expression with names for its numbers. -/
def Expr.named? (names : List String) : Expr → Option Source.Expr
  | .int value => some (.int value)
  | .var id => do return .var (← names[id]?)
  | .unary sign operand => do return .unary sign (← operand.named? names)
  | .binary op left right => do
      return .binary op.operator (← left.named? names) (← right.named? names)

/-- A statement with names for its numbers, its target's included. -/
def Stmt.named? (names : List String) : Stmt → Option Source.Stmt
  | .assign id value => do return .assign (← names[id]?) (← value.named? names)
  | .print value => do return .print (← value.named? names)

/-- A program with the names of its own table for its numbers. -/
def Program.named? (program : Program) : Option Source.Program :=
  program.stmts.mapM (Stmt.named? program.names)

end Bound

end StraightLine
