import StraightLine.Source
import StraightLine.Word

/-! What it means to run: arithmetic on words, the reasons for a run to stop before its end, and
what can be seen of a run. -/

namespace StraightLine

/-- Why a run stops before its end: a zero divisor, the one quotient that no word holds, a variable
that nothing has been assigned to, or a variable that has no place. Code has two more reasons: a
temporary that is read unwritten or written twice, and a last instruction that does not return. -/
inductive Stop (Var : Type) where
  | zeroDivisor
  | quotientOverflow
  | unassigned (var : Var)
  | noSlot (var : Var)
  | badTemp (temp : Nat)
  | noReturn
  deriving DecidableEq, Repr

/-- A reason with its variable under another name. -/
def Stop.map {Var Var' : Type} (rename : Var → Var') : Stop Var → Stop Var'
  | .zeroDivisor => .zeroDivisor
  | .quotientOverflow => .quotientOverflow
  | .unassigned var => .unassigned (rename var)
  | .noSlot var => .noSlot (rename var)
  | .badTemp temp => .badTemp temp
  | .noReturn => .noReturn

theorem Stop.map_map {Var Var' Var'' : Type} (rename : Var → Var') (rename' : Var' → Var'')
    (stop : Stop Var) : (stop.map rename).map rename' = stop.map (rename' ∘ rename) := by
  cases stop <;> rfl

/-- The reasons that lie in the values alone: a zero divisor, and the quotient that no word holds
unless it wraps around. -/
def Stop.IsArithmetic {Var : Type} (wraps : Bool) (stop : Stop Var) : Prop :=
  stop = .zeroDivisor ∨ wraps = false ∧ stop = .quotientOverflow

theorem Stop.isArithmetic_map {Var Var' : Type} {wraps : Bool} {rename : Var → Var'}
    {stop : Stop Var} : (stop.map rename).IsArithmetic wraps ↔ stop.IsArithmetic wraps := by
  cases stop <;> simp [Stop.IsArithmetic, Stop.map]

/-- What can be seen of a run: the printed values, how many statements it completed, what the
variables hold when it is over, and why it stopped if it did not reach its end. -/
structure Run (Var Memory : Type) where
  printed : List Word
  completed : Nat
  memory : Memory
  stop : Option (Stop Var)

/-- A run that completes nothing. -/
def Run.halt {Var Memory : Type} (memory : Memory) (stop : Option (Stop Var)) : Run Var Memory :=
  ⟨[], 0, memory, stop⟩

/-- One statement completed in front of a run, with the value that it prints. -/
def Run.after {Var Memory : Type} (printed : Option Word) (run : Run Var Memory) :
    Run Var Memory :=
  { run with printed := printed.toList ++ run.printed, completed := run.completed + 1 }

/-- What can be seen of a run from outside, where its variables have no names. -/
def Run.visible {Var Memory : Type} (run : Run Var Memory) : Run Unit Unit :=
  ⟨run.printed, run.completed, (), run.stop.map (Stop.map fun _ => ())⟩

@[simp] theorem Run.visible_halt {Var Memory : Type} (memory : Memory)
    (stop : Option (Stop Var)) :
    (Run.halt memory stop).visible = .halt () (stop.map (Stop.map fun _ => ())) := rfl

@[simp] theorem Run.visible_after {Var Memory : Type} (printed : Option Word)
    (run : Run Var Memory) : (run.after printed).visible = run.visible.after printed := rfl

/-- The word that a literal stands for at run time. -/
def Word.ofLiteral (value : Int) : Word :=
  BitVec.ofInt 32 value

/-- An operator on words. Results wrap around, quotients are cut toward zero, and `wraps` says
whether the smallest word divided by minus one wraps around too or stops the run. -/
def Arith.run {Var : Type} (wraps : Bool) (op : Arith) (left right : Word) :
    Except (Stop Var) Word :=
  match op with
  | .add => .ok (left + right)
  | .sub => .ok (left - right)
  | .mul => .ok (left * right)
  | .div =>
      if right = 0 then .error .zeroDivisor
      else if !wraps ∧ left = BitVec.intMin 32 ∧ right = -1 then .error .quotientOverflow
      else .ok (left.sdiv right)

def Sign.run : Sign → Word → Word
  | .plus, word => word
  | .minus, word => 0 - word

end StraightLine
