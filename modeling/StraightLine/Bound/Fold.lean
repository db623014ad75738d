import StraightLine.Bound
import Std.Data.TreeMap

/-! Constant folding: variables whose value is known are replaced by it, operations on literals are
carried out, and operands that change nothing are dropped. Folding computes with exact integers and
stops with an error where a result leaves the range of a word. A division by the literal zero stays
as it is. -/

namespace StraightLine.Bound

/-- The variables with a known value at a point of the program. -/
abbrev Constants := Std.TreeMap Nat Int

/-- Why folding stops: a result or a literal that no word holds. -/
inductive FoldError where
  | overflow (op : Arith) (left right : Int)
  | negationOverflow (value : Int)
  | literalOutOfRange (value : Int)
  deriving DecidableEq, Repr

def FoldError.message : FoldError → String
  | .overflow op left right =>
      "internal compiler error: constant folding overflowed on " ++ toString left ++ " "
        ++ op.symbol ++ " " ++ toString right
  | .negationOverflow value =>
      "internal compiler error: constant folding overflowed negating " ++ toString value
  | .literalOutOfRange value =>
      "internal compiler error: literal " ++ toString value
        ++ " reached the optimizer outside 32-bit range"

/-- A literal that takes part in folding has to fit a word. -/
def checkWord (value : Int) : Except FoldError Int :=
  if FitsWord value then .ok value else .error (.literalOutOfRange value)

def negate (value : Int) : Except FoldError Int := do
  let value ← checkWord value
  if FitsWord (-value) then return -value else throw (.negationOverflow value)

def evaluate (op : Arith) (left right : Int) : Except FoldError Int := do
  let left ← checkWord left
  let right ← checkWord right
  if FitsWord (op.exact left right) then return op.exact left right
  else throw (.overflow op left right)

/-- The operand that an operation returns unchanged because of the other one. -/
def neutral? (op : Arith) (left right : Expr) : Option Expr :=
  match op with
  | .add => if right = .int 0 then some left else if left = .int 0 then some right else none
  | .sub => if right = .int 0 then some left else none
  | .mul => if right = .int 1 then some left else if left = .int 1 then some right else none
  | .div => if right = .int 1 then some left else none

/-- A signed operand, folded. -/
def foldUnary (sign : Sign) (operand : Expr) : Except FoldError Expr :=
  match sign, operand with
  | .plus, operand => .ok operand
  | .minus, .int value => .int <$> negate value
  | .minus, operand => .ok (.unary .minus operand)

/-- An operation on folded operands, folded. -/
def foldBinary (op : Arith) (left right : Expr) : Except FoldError Expr :=
  match neutral? op left right with
  | some operand => .ok operand
  | none =>
      match left, right with
      | .int l, .int r =>
          if op = .div ∧ r = 0 then .ok (.binary op left right) else .int <$> evaluate op l r
      | _, _ => .ok (.binary op left right)

/-- An expression folded where the variables in `known` have their values. -/
def Expr.fold (known : Constants) : Expr → Except FoldError Expr
  | .int value => .ok (.int value)
  | .var id =>
      match known[id]? with
      | some value => .ok (.int value)
      | none => .ok (.var id)
  | .unary sign operand => do foldUnary sign (← operand.fold known)
  | .binary op left right => do foldBinary op (← left.fold known) (← right.fold known)

/-- What is known after `value` has been assigned to a variable. -/
def assigned (known : Constants) (id : Nat) (value : Expr) : Except FoldError Constants :=
  match value with
  | .int value => known.insert id <$> checkWord value
  | _ => .ok (known.erase id)

/-- A statement folded, and what is known after it. -/
def Stmt.fold (known : Constants) : Stmt → Except FoldError (Stmt × Constants)
  | .assign id value => do
      let value ← value.fold known
      return (.assign id value, ← assigned known id value)
  | .print value => do return (.print (← value.fold known), known)

/-- Statements folded in order, and what is known after them. -/
def foldFrom (known : Constants) : List Stmt → Except FoldError (List Stmt × Constants)
  | [] => .ok ([], known)
  | stmt :: rest => do
      let (stmt, known) ← stmt.fold known
      let (rest, known) ← foldFrom known rest
      return (stmt :: rest, known)

/-- A folded program with the constants known at its end. -/
structure Folded where
  program : Program
  known : Constants

/-- A program folded from its first statement on; names and messages stay. -/
def Program.fold (program : Program) : Except FoldError Folded := do
  let (stmts, known) ← foldFrom ∅ program.stmts
  return ⟨{ program with stmts }, known⟩

end StraightLine.Bound
