import StraightLine.Source

/-! Where the statements of a program stand: after which assignments. A variable that nothing before
a statement assigns to has no value there, and a remainder has none anywhere; both can be replaced
by zero without a change to the rest of the program. -/

namespace StraightLine.Source

def Stmt.target? : Stmt → Option String
  | .assign name _ => some name
  | .print _ => none

/-- The names that a program assigns to, each once, in the order of the first assignments. -/
def Program.variables (program : Program) : List String :=
  (program.filterMap Stmt.target?).eraseDups

/-- A statement, and the names that the statements before it assign to. -/
structure Place where
  assigned : List String
  stmt : Stmt
  deriving DecidableEq, Repr

/-- Every statement of a program in its place. -/
def Program.places (program : Program) : List Place :=
  program.mapIdx fun position stmt => ⟨Program.variables (program.take position), stmt⟩

/-- An expression with a zero for every variable that is not in `assigned`, and for every remainder
that is not inside another one. -/
def Expr.zeroed (assigned : List String) : Expr → Expr
  | .int value => .int value
  | .var name => if name ∈ assigned then .var name else .int 0
  | .unary sign operand => .unary sign (operand.zeroed assigned)
  | .binary op left right =>
      if op = .rem then .int 0 else .binary op (left.zeroed assigned) (right.zeroed assigned)

/-- A statement with zeros for what has no value in its place. -/
def Place.zeroed (place : Place) : Stmt :=
  match place.stmt with
  | .assign name value => .assign name (value.zeroed place.assigned)
  | .print value => .print (value.zeroed place.assigned)

/-- A program with zeros for what has no value. -/
def Program.zeroed (program : Program) : Program :=
  program.places.map Place.zeroed

end StraightLine.Source
