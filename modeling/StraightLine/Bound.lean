import StraightLine.Diagnostic
import StraightLine.Source
import StraightLine.Word

/-! Programs whose variables are numbered. Numbers stand in for names, only operators that have an
instruction are left, and the messages about the program travel with it. -/

namespace StraightLine.Bound

/-- Expressions over numbered variables. -/
inductive Expr where
  | int (value : Int)
  | var (id : Nat)
  | unary (sign : Sign) (operand : Expr)
  | binary (op : Arith) (left right : Expr)
  deriving DecidableEq, Repr

/-- A statement assigns to a variable or prints a value. -/
inductive Stmt where
  | assign (id : Nat) (value : Expr)
  | print (value : Expr)
  deriving DecidableEq, Repr

def Stmt.value : Stmt → Expr
  | .assign _ value => value
  | .print value => value

/-- The variable that a statement assigns to; a statement that prints has none. -/
def Stmt.target? : Stmt → Option Nat
  | .assign id _ => some id
  | .print _ => none

/-- Statements in order, the name of every variable at the position of its number, and messages. -/
structure Program where
  stmts : List Stmt
  names : List String
  diagnostics : List Diagnostic
  deriving DecidableEq, Repr

def Program.hasErrors (program : Program) : Bool :=
  program.diagnostics.any Diagnostic.isError

end StraightLine.Bound
