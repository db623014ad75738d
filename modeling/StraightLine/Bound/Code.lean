import StraightLine.Bound
import StraightLine.Code

/-! Code for bound programs. The temporaries of an expression are numbered on from those used before
it, and the last of them holds its value.

The numbers have no bound here. A counter of 32 bits gives the same numbers as long as
`program.temps < 2 ^ 32`; past that it would give a number twice or fail. Whatever is said about code
is to be read with that bound where temporaries are counted so. -/

namespace StraightLine.Bound

/-- How many temporaries an expression needs. -/
def Expr.temps : Expr → Nat
  | .int _ => 1
  | .var _ => 1
  | .unary .plus operand => operand.temps
  | .unary .minus operand => operand.temps + 2
  | .binary _ left right => left.temps + right.temps + 1

/-- Code that leaves an expression's value in the temporary `used + temps`, where temporaries up to
`used` are taken. A negation subtracts from zero. -/
def Expr.code (used : Nat) : Expr → Code
  | .int value => [.copy (used + 1) value]
  | .var id => [.load (used + 1) id]
  | .unary .plus operand => operand.code used
  | .unary .minus operand =>
      let value := used + operand.temps
      operand.code used ++ [.copy (value + 1) 0, .arith .sub (value + 2) (value + 1) value]
  | .binary op left right =>
      let l := used + left.temps
      let r := l + right.temps
      left.code used ++ right.code l ++ [.arith op (r + 1) l r]

/-- What a statement does with its value. -/
def Stmt.effect (temp : Nat) : Stmt → Instr
  | .assign id _ => .store temp id
  | .print _ => .print temp

/-- Code for a statement where temporaries up to `used` are taken. -/
def Stmt.code (used : Nat) (stmt : Stmt) : Code :=
  stmt.value.code used ++ [stmt.effect (used + stmt.value.temps)]

def codeFrom (used : Nat) : List Stmt → Code
  | [] => []
  | stmt :: rest => stmt.code used ++ codeFrom (used + stmt.value.temps) rest

def tempsOf : List Stmt → Nat
  | [] => 0
  | stmt :: rest => stmt.value.temps + tempsOf rest

def Program.temps (program : Program) : Nat :=
  tempsOf program.stmts

/-- Code for a program: a slot for every variable, then the statements. -/
def Program.code (program : Program) : Code :=
  (List.range program.names.length).map .alloc ++ codeFrom 0 program.stmts ++ [.ret]

inductive CodeError where
  | hasErrors
  deriving DecidableEq, Repr

def CodeError.message : CodeError → String
  | .hasErrors => "lowering a program with error diagnostics"

/-- Code for a program that no message forbids. -/
def Program.code? (program : Program) : Except CodeError Code :=
  if program.hasErrors then .error .hasErrors else .ok program.code

end StraightLine.Bound
