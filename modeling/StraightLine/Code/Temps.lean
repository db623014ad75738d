import StraightLine.Code.Run

/-! Which temporaries an instruction defines and which it uses, and what it means that code defines
every temporary once and uses it in the statement that it was defined in. -/

namespace StraightLine

/-- The temporary that an instruction defines. -/
def Instr.target? : Instr → Option Nat
  | .copy target _ => some target
  | .load target _ => some target
  | .arith _ target _ _ => some target
  | .alloc _ | .store _ _ | .print _ | .ret => none

def Instr.operands : Instr → List Nat
  | .arith _ _ left right => [left, right]
  | .store temp _ => [temp]
  | .print temp => [temp]
  | .alloc _ | .copy _ _ | .load _ _ | .ret => []

namespace Code

/-- The temporaries that code defines, line by line. -/
def targets (code : Code) : List Nat :=
  code.filterMap Instr.target?

def DefinesOnce (code : Code) (temp : Nat) : Prop :=
  ∃ before definition after, code = before ++ definition :: after ∧
    definition.target? = some temp ∧ ∀ other ∈ before ++ after, other.target? ≠ some temp

/-- Every temporary that a line uses is defined on a line before it, and no statement ends between
the two. -/
def DefinedFirst (code : Code) : Prop :=
  ∀ before instr after, code = before ++ instr :: after → ∀ temp ∈ instr.operands,
    ∃ start definition between, before = start ++ definition :: between ∧
      definition.target? = some temp ∧ ∀ other ∈ between, other.endsStatement = false

end Code

end StraightLine
