import StraightLine.Code.Temps

/-! What code costs: instructions, divisions, temporaries and loads. Code is compared statement by
statement, each with the instructions that work for it. -/

namespace StraightLine

def Instr.divides : Instr → Bool
  | .arith op _ _ _ => op = .div
  | _ => false

def Instr.loaded? : Instr → Option Nat
  | .load _ slot => some slot
  | _ => none

namespace Code

def divisions (code : Code) : Nat :=
  code.countP Instr.divides

/-- The slots that code loads, line by line. -/
def loads (code : Code) : List Nat :=
  code.filterMap Instr.loaded?

/-- The code of the statements one after another. An instruction that defines a temporary belongs to
the statement that ends next; slots and returns belong to no statement. -/
def statements : Code → List Code
  | [] => []
  | instr :: rest =>
      if instr.endsStatement then [instr] :: statements rest
      else if instr.target?.isSome then
        match statements rest with
        | [] => []
        | code :: codes => (instr :: code) :: codes
      else statements rest

/-- Code that is in no respect worse than other code: it has no more instructions, no more divisions
and no more temporaries, and loads only slots that the other code loads, each no more often. -/
structure NoWorse (code than : Code) : Prop where
  instructions : code.length ≤ than.length
  divisions : code.divisions ≤ than.divisions
  temporaries : code.targets.length ≤ than.targets.length
  slots : code.loads ⊆ than.loads
  loads : ∀ slot, code.loads.count slot ≤ than.loads.count slot

end Code

end StraightLine
