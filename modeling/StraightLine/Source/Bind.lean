import StraightLine.Bound

/-! Numbering the variables of a program and finding its faults. A variable exists from the first
assignment to it on, and its number is the number of variables that existed before. A part of an
expression that has no meaning becomes the literal zero, and a fault says why. -/

namespace StraightLine

/-- What can be wrong with a program that reads well. -/
inductive Fault where
  | undefinedVariable (name : String)
  | literalOutOfRange (value : Int)
  | unsupportedOperator (op : Source.Operator)
  | divisionByZero
  deriving DecidableEq, Repr

def Fault.message : Fault → String
  | .undefinedVariable name => "use of undefined variable `" ++ name ++ "`"
  | .literalOutOfRange value => "integer literal out of 32-bit range: " ++ toString value
  | .unsupportedOperator op => "unsupported binary operator `" ++ op.symbol ++ "`"
  | .divisionByZero => "division by zero"

/-- Every fault is an error. -/
def Fault.diagnostic (fault : Fault) : Diagnostic :=
  ⟨.error, fault.message⟩

namespace Source

/-- The operator's instruction; a remainder has none. -/
def Operator.arith? : Operator → Option Arith
  | .add => some .add
  | .sub => some .sub
  | .mul => some .mul
  | .div => some .div
  | .rem => none

/-- An expression with the variables of `scope` numbered by their positions. -/
def Expr.bind (scope : List String) : Expr → Bound.Expr
  | .int value => .int value
  | .var name =>
      match scope.idxOf? name with
      | some id => .var id
      | none => .int 0
  | .unary sign operand => .unary sign (operand.bind scope)
  | .binary op left right =>
      match op.arith? with
      | some op => .binary op (left.bind scope) (right.bind scope)
      | none => .int 0

/-- The faults of an expression from left to right. An operator without instruction comes before the
faults of its operands, a divisor that is the literal zero after them. -/
def Expr.faults (scope : List String) : Expr → List Fault
  | .int value => if FitsWord value then [] else [.literalOutOfRange value]
  | .var name => if name ∈ scope then [] else [.undefinedVariable name]
  | .unary _ operand => operand.faults scope
  | .binary op left right =>
      (if op = .rem then [.unsupportedOperator op] else [])
        ++ left.faults scope
        ++ right.faults scope
        ++ (if (op = .div ∨ op = .rem) ∧ right.bind scope = .int 0 then [.divisionByZero] else [])

/-- The variables that exist once `name` has been assigned to. -/
def declare (scope : List String) (name : String) : List String :=
  if name ∈ scope then scope else scope ++ [name]

def Stmt.scopeAfter (scope : List String) : Stmt → List String
  | .assign name _ => declare scope name
  | .print _ => scope

/-- A statement with its variables numbered; the target of an assignment may be new. -/
def Stmt.bind (scope : List String) : Stmt → Bound.Stmt
  | .assign name value => .assign ((declare scope name).idxOf name) (value.bind scope)
  | .print value => .print (value.bind scope)

/-- The bound form of statements that run when the variables of `scope` exist. -/
def bindFrom (scope : List String) : List Stmt → Bound.Program
  | [] => ⟨[], scope, []⟩
  | stmt :: rest =>
      let bound := bindFrom (stmt.scopeAfter scope) rest
      { bound with
        stmts := stmt.bind scope :: bound.stmts
        diagnostics := (stmt.value.faults scope).map Fault.diagnostic ++ bound.diagnostics }

/-- The bound form of a program, with an error for every fault. -/
def bind (program : Program) : Bound.Program :=
  bindFrom [] program

end Source

end StraightLine
