import StraightLine.Source
import StraightLine.Word

/-! The meaning of a program over integers without bound. Every result has to fit a word: the first
operation whose result does not, or whose divisor is zero, ends the evaluation, and the operands it
had say why. -/

namespace StraightLine

/-- Why a program has no exact values from a statement on: an operation or a negation whose result
no word holds, a zero divisor, or a variable that nothing has been assigned to. -/
inductive Trap where
  | overflow (op : Source.Operator) (left right : Int)
  | negationOverflow (value : Int)
  | zeroDivisor
  | unassigned (name : String)
  deriving DecidableEq, Repr

def Sign.exact : Sign → Int → Except Trap Int
  | .plus, value => .ok value
  | .minus, value => if FitsWord (-value) then .ok (-value) else .error (.negationOverflow value)

namespace Source

/-- The result of an operator over integers. A quotient is cut toward zero, and a remainder takes
the sign of its left operand. -/
def Operator.result : Operator → Int → Int → Int
  | .add => (· + ·)
  | .sub => (· - ·)
  | .mul => (· * ·)
  | .div => Int.tdiv
  | .rem => Int.tmod

def Operator.exact (op : Operator) (left right : Int) : Except Trap Int :=
  if (op = .div ∨ op = .rem) ∧ right = 0 then .error .zeroDivisor
  else if FitsWord (op.result left right) then .ok (op.result left right)
  else .error (.overflow op left right)

/-- The integer that every assigned variable holds. -/
abbrev Integers := String → Option Int

/-- The integer that an expression stands for, its left operands evaluated first. -/
def Expr.exact (integers : Integers) : Expr → Except Trap Int
  | .int value => .ok value
  | .var name =>
      match integers name with
      | some value => .ok value
      | none => .error (.unassigned name)
  | .unary sign operand => do sign.exact (← operand.exact integers)
  | .binary op left right => do op.exact (← left.exact integers) (← right.exact integers)

/-- What the variables hold after a statement whose expression stands for `value`. -/
def Stmt.integersAfter (integers : Integers) (value : Int) : Stmt → Integers
  | .assign name _ => fun other => if other = name then some value else integers other
  | .print _ => integers

/-- The integers of the statements that were evaluated, and what ended the evaluation early. -/
structure Evaluation where
  values : List Int
  trap : Option Trap
  deriving DecidableEq, Repr

/-- One statement evaluated in front of others. -/
def Evaluation.after (value : Int) (evaluation : Evaluation) : Evaluation :=
  { evaluation with values := value :: evaluation.values }

/-- Evaluates statements in order up to the first that has no value. -/
def evaluateFrom (integers : Integers) : List Stmt → Evaluation
  | [] => ⟨[], none⟩
  | stmt :: rest =>
      match stmt.value.exact integers with
      | .ok value => (evaluateFrom (stmt.integersAfter integers value) rest).after value
      | .error trap => ⟨[], some trap⟩

/-- Evaluates a program in which nothing has been assigned yet. -/
def evaluate (program : Program) : Evaluation :=
  evaluateFrom (fun _ => none) program

end Source

end StraightLine
