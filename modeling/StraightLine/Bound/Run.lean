import StraightLine.Bound
import StraightLine.Slots

/-! The meaning of a bound program: variables hold words in numbered slots, one for every name. -/

namespace StraightLine.Bound

/-- The value of an expression, or why it has none. -/
def Expr.eval (wraps : Bool) (slots : Slots) : Expr → Except (Stop Nat) Word
  | .int value => .ok (Word.ofLiteral value)
  | .var id => slots.load id
  | .unary sign operand => do return sign.run (← operand.eval wraps slots)
  | .binary op left right => do
      op.run wraps (← left.eval wraps slots) (← right.eval wraps slots)

/-- What the slots hold after a statement, and what it prints. -/
def Stmt.run (wraps : Bool) (slots : Slots) : Stmt → Except (Stop Nat) (Slots × Option Word)
  | .assign id value => do return (← slots.store id (← value.eval wraps slots), none)
  | .print value => do return (slots, some (← value.eval wraps slots))

/-- Runs statements in order until one stops the run. -/
def runFrom (wraps : Bool) (slots : Slots) : List Stmt → Run Nat Slots
  | [] => .halt slots none
  | stmt :: rest =>
      match stmt.run wraps slots with
      | .ok (slots, printed) => (runFrom wraps slots rest).after printed
      | .error stop => .halt slots (some stop)

def Program.run (wraps : Bool) (program : Program) : Run Nat Slots :=
  runFrom wraps (Slots.empty program.names.length) program.stmts

end StraightLine.Bound
