import StraightLine.Bound

/-! What is left to simplify in a program, said without simplifying it. A part of an expression can
be simplified because of its form or, if it is a variable, because of what was last assigned to it. -/

namespace StraightLine.Bound

/-- An expression and the expressions inside it. -/
def Expr.parts : Expr → List Expr
  | .int value => [.int value]
  | .var id => [.var id]
  | .unary sign operand => .unary sign operand :: operand.parts
  | .binary op left right => .binary op left right :: (left.parts ++ right.parts)

def Expr.literal? : Expr → Option Int
  | .int value => some value
  | _ => none

/-- What a statement assigns to a variable, if it assigns to it. -/
def Stmt.assigned? (id : Nat) : Stmt → Option Expr
  | .assign target value => if target = id then some value else none
  | .print _ => none

/-- What the last assignment to a variable assigns to it. -/
def lastAssigned? (stmts : List Stmt) (id : Nat) : Option Expr :=
  stmts.reverse.findSome? (Stmt.assigned? id)

/-- The expressions that can be simplified after the statements `earlier`: a sign that changes
nothing, a literal with a sign, an operation on two literals that has a result, an operation that
returns one of its operands, and a variable whose value stands in the last assignment to it. -/
inductive Expr.Redex (earlier : List Stmt) : Expr → Prop where
  | plus (operand : Expr) : Redex earlier (.unary .plus operand)
  | negated (value : Int) : Redex earlier (.unary .minus (.int value))
  | literals {op : Arith} {left right : Int} (hdivisor : ¬ (op = .div ∧ right = 0)) :
      Redex earlier (.binary op (.int left) (.int right))
  | addZero (left : Expr) : Redex earlier (.binary .add left (.int 0))
  | zeroAdd (right : Expr) : Redex earlier (.binary .add (.int 0) right)
  | subZero (left : Expr) : Redex earlier (.binary .sub left (.int 0))
  | mulOne (left : Expr) : Redex earlier (.binary .mul left (.int 1))
  | oneMul (right : Expr) : Redex earlier (.binary .mul (.int 1) right)
  | divOne (left : Expr) : Redex earlier (.binary .div left (.int 1))
  | known {id : Nat} {value : Int} (hlast : lastAssigned? earlier id = some (.int value)) :
      Redex earlier (.var id)

end StraightLine.Bound
