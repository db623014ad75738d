import StraightLine.Word

/-! The code that programs are compiled to. Every variable has a stack slot, every computed value a
temporary of its own, and the instructions run one after another. -/

namespace StraightLine

/-- One instruction. Slots and temporaries are given by their numbers. -/
inductive Instr where
  | alloc (slot : Nat)
  | copy (target : Nat) (value : Int)
  | load (target slot : Nat)
  | arith (op : Arith) (target left right : Nat)
  | store (temp slot : Nat)
  | print (temp : Nat)
  | ret
  deriving DecidableEq, Repr

def slotName (slot : Nat) : String :=
  "%v" ++ toString slot

def tempName (temp : Nat) : String :=
  "%t" ++ toString temp

def Arith.mnemonic : Arith → String
  | .add => "add"
  | .sub => "sub"
  | .mul => "mul"
  | .div => "div"

/-- The words of an instruction, punctuation marks included. -/
def Instr.words : Instr → List String
  | .alloc slot => [slotName slot, "=l", "alloc4", "4"]
  | .copy target value => [tempName target, "=w", "copy", toString value]
  | .load target slot => [tempName target, "=w", "loadw", slotName slot]
  | .arith op target left right =>
      [tempName target, "=w", op.mnemonic, tempName left ++ ",", tempName right]
  | .store temp slot => ["storew", tempName temp ++ ",", slotName slot]
  | .print temp => ["call", "$printf(l", "$fmt_int,", "...,", "w", tempName temp ++ ")"]
  | .ret => ["ret", "0"]

/-- An instruction as text: its words with single blanks between them. -/
def Instr.render (instr : Instr) : String :=
  " ".intercalate instr.words

/-- The body of a function. -/
abbrev Code := List Instr

/-- The lines before the instructions: the print format and the start of the only function. -/
def codeHeader : List String :=
  ["data $fmt_int = \x7b b \"%d\\n\", b 0 \x7d", "", "export function w $main() \x7b", "@start"]

/-- The lines of a program's text. Instructions are indented by a tab. -/
def Code.lines (code : Code) : List String :=
  codeHeader ++ code.map (fun instr => "\t" ++ instr.render) ++ ["\x7d"]

/-- The text of a program, every line ended by a newline. -/
def Code.render (code : Code) : String :=
  String.join (code.lines.map (· ++ "\n"))

end StraightLine
