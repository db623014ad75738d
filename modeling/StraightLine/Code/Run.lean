import StraightLine.Code
import StraightLine.Slots

/-! The machine that code runs on: slots, temporaries, and one instruction after another. A
temporary is written once, before it is read, and a program ends by returning. -/

namespace StraightLine

/-- What the machine holds: slots, and the temporaries written so far. -/
structure Machine where
  slots : Slots
  temps : Nat → Option Word

def Machine.initial : Machine :=
  ⟨Slots.absent, fun _ => none⟩

/-- The word in a temporary that has been written. -/
def Machine.read (machine : Machine) (temp : Nat) : Except (Stop Nat) Word :=
  match machine.temps temp with
  | some word => .ok word
  | none => .error (.badTemp temp)

def Machine.put (machine : Machine) (temp : Nat) (word : Word) : Machine :=
  { machine with temps := fun other => if other = temp then some word else machine.temps other }

/-- Writes a temporary for the first time. -/
def Machine.write (machine : Machine) (temp : Nat) (word : Word) : Except (Stop Nat) Machine :=
  match machine.temps temp with
  | some _ => .error (.badTemp temp)
  | none => .ok (machine.put temp word)

/-- One instruction: the machine after it, and what it prints. -/
def Instr.run (wraps : Bool) (machine : Machine) :
    Instr → Except (Stop Nat) (Machine × Option Word)
  | .alloc slot => .ok ({ machine with slots := machine.slots.set slot none }, none)
  | .copy target value => do return (← machine.write target (Word.ofLiteral value), none)
  | .load target slot => do return (← machine.write target (← machine.slots.load slot), none)
  | .arith op target left right => do
      let result ← op.run wraps (← machine.read left) (← machine.read right)
      return (← machine.write target result, none)
  | .store temp slot => do
      return ({ machine with slots := ← machine.slots.store slot (← machine.read temp) }, none)
  | .print temp => do return (machine, some (← machine.read temp))
  | .ret => .ok (machine, none)

/-- Whether an instruction is the last one of a statement. -/
def Instr.endsStatement : Instr → Bool
  | .store _ _ => true
  | .print _ => true
  | _ => false

/-- Runs instructions up to the first return, or until one stops the run. -/
def Code.runFrom (wraps : Bool) (machine : Machine) : Code → Run Nat Slots
  | [] => .halt machine.slots (some .noReturn)
  | .ret :: _ => .halt machine.slots none
  | instr :: rest =>
      match instr.run wraps machine with
      | .ok (machine, printed) =>
          let run := Code.runFrom wraps machine rest
          if instr.endsStatement then run.after printed else run
      | .error stop => .halt machine.slots (some stop)

def Code.run (wraps : Bool) (code : Code) : Run Nat Slots :=
  code.runFrom wraps Machine.initial

end StraightLine
