import StraightLine.Source.Bind
import StraightLine.Source.Place

/-! Faults found on a walk. The walk comes to every part of an expression and leaves it again when it
has been through the operands, the left one first; what it finds at a part depends on that part
alone. -/

namespace StraightLine.Source

/-- An expression and the expressions inside it. -/
def Expr.parts : Expr → List Expr
  | .int value => [.int value]
  | .var name => [.var name]
  | .unary sign operand => .unary sign operand :: operand.parts
  | .binary op left right => .binary op left right :: (left.parts ++ right.parts)

/-- A moment of a walk: at a part before its operands, or after them. -/
inductive Visit where
  | enter (part : Expr)
  | leave (part : Expr)
  deriving DecidableEq, Repr

def Expr.walk : Expr → List Visit
  | .int value => [.enter (.int value), .leave (.int value)]
  | .var name => [.enter (.var name), .leave (.var name)]
  | .unary sign operand =>
      [.enter (.unary sign operand)] ++ operand.walk ++ [.leave (.unary sign operand)]
  | .binary op left right =>
      [.enter (.binary op left right)] ++ left.walk ++ right.walk
        ++ [.leave (.binary op left right)]

/-- The divisors that are zero on sight: the literal, and what has no value. -/
def Expr.IsZero (assigned : List String) : Expr → Prop
  | .int value => value = 0
  | .var name => name ∉ assigned
  | .unary _ _ => False
  | .binary op _ _ => op = .rem

instance (assigned : List String) : DecidablePred (Expr.IsZero assigned)
  | .int value => inferInstanceAs (Decidable (value = 0))
  | .var name => inferInstanceAs (Decidable (name ∉ assigned))
  | .unary _ _ => inferInstanceAs (Decidable False)
  | .binary op _ _ => inferInstanceAs (Decidable (op = .rem))

/-- What is wrong at a moment of a walk: on the way in a literal that no word holds, a variable that
is not in `assigned`, or a remainder; on the way out a division or remainder by what is zero on
sight. -/
def Visit.fault? (assigned : List String) : Visit → Option Fault
  | .enter (.int value) => if FitsWord value then none else some (.literalOutOfRange value)
  | .enter (.var name) => if name ∈ assigned then none else some (.undefinedVariable name)
  | .enter (.binary op _ _) => if op = .rem then some (.unsupportedOperator op) else none
  | .leave (.binary op _ right) =>
      if (op = .div ∨ op = .rem) ∧ right.IsZero assigned then some .divisionByZero else none
  | _ => none

/-- The faults found on a walk through the expression of a statement. -/
def Place.faults (place : Place) : List Fault :=
  place.stmt.value.walk.filterMap (Visit.fault? place.assigned)

/-- An expression in which nothing is wrong where the names in `assigned` have been assigned to. -/
structure Expr.Faultless (assigned : List String) (expr : Expr) : Prop where
  names : ∀ name, .var name ∈ expr.parts → name ∈ assigned
  literals : ∀ value, .int value ∈ expr.parts → FitsWord value
  operators : ∀ left right, .binary .rem left right ∉ expr.parts
  divisors : ∀ left, .binary .div left (.int 0) ∉ expr.parts

end StraightLine.Source
