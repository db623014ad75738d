/-! The values programs compute with at run time: 32-bit words, read as signed integers. -/

namespace StraightLine

abbrev Word := BitVec 32

/-- The integers that a word holds without loss, from the smallest, `-2 ^ 31`, to the largest,
`2 ^ 31 - 1`. -/
def FitsWord (value : Int) : Prop :=
  -2147483648 ≤ value ∧ value ≤ 2147483647

instance (value : Int) : Decidable (FitsWord value) :=
  inferInstanceAs (Decidable (_ ∧ _))

/-- The operators that have an instruction. -/
inductive Arith where
  | add
  | sub
  | mul
  | div
  deriving DecidableEq, Repr

def Arith.symbol : Arith → String
  | .add => "+"
  | .sub => "-"
  | .mul => "*"
  | .div => "/"

/-- The operator on integers without bound; a quotient is cut toward zero. -/
def Arith.exact : Arith → Int → Int → Int
  | .add => (· + ·)
  | .sub => (· - ·)
  | .mul => (· * ·)
  | .div => Int.tdiv

end StraightLine
