import StraightLine.Run

/-! The meaning of a program as it is written: variables hold words under their names, and an
operand is evaluated before the one to its right. -/

namespace StraightLine.Source

/-- What every assigned variable holds. -/
abbrev Values := String → Option Word

/-- An operator on words. A remainder takes the sign of its left operand. -/
def Operator.run {Var : Type} (wraps : Bool) (op : Operator) (left right : Word) :
    Except (Stop Var) Word :=
  match op with
  | .add => Arith.add.run wraps left right
  | .sub => Arith.sub.run wraps left right
  | .mul => Arith.mul.run wraps left right
  | .div => Arith.div.run wraps left right
  | .rem => if right = 0 then .error .zeroDivisor else .ok (left.srem right)

/-- The value of an expression, or why it has none. -/
def Expr.eval (wraps : Bool) (values : Values) : Expr → Except (Stop String) Word
  | .int value => .ok (Word.ofLiteral value)
  | .var name =>
      match values name with
      | some word => .ok word
      | none => .error (.unassigned name)
  | .unary sign operand => do return sign.run (← operand.eval wraps values)
  | .binary op left right => do
      op.run wraps (← left.eval wraps values) (← right.eval wraps values)

def Values.set (values : Values) (name : String) (word : Word) : Values :=
  fun other => if other = name then some word else values other

/-- What the variables hold after a statement, and what it prints. -/
def Stmt.run (wraps : Bool) (values : Values) :
    Stmt → Except (Stop String) (Values × Option Word)
  | .assign name value => do return (values.set name (← value.eval wraps values), none)
  | .print value => do return (values, some (← value.eval wraps values))

/-- Runs statements in order until one stops the run. -/
def runFrom (wraps : Bool) (values : Values) : List Stmt → Run String Values
  | [] => .halt values none
  | stmt :: rest =>
      match stmt.run wraps values with
      | .ok (values, printed) => (runFrom wraps values rest).after printed
      | .error stop => .halt values (some stop)

/-- Runs a program in which nothing has been assigned yet. -/
def run (wraps : Bool) (program : Program) : Run String Values :=
  runFrom wraps (fun _ => none) program

end StraightLine.Source
