import StraightLine.Code
import StraightLine.Text.Decimal

/-! Reading code text back, one line at a time. -/

namespace StraightLine

/-- The number in a name made of a percent sign, a letter and the number. -/
def numbered? (letter : Char) : List Char → Option Nat
  | '%' :: c :: digits => if c = letter then Text.unsignedDecimal? digits else none
  | _ => none

def temp? (word : List Char) : Option Nat :=
  numbered? 't' word

def slot? (word : List Char) : Option Nat :=
  numbered? 'v' word

/-- A word without the character it ends in. -/
def endedBy? (c : Char) (word : List Char) : Option (List Char) :=
  if word.getLast? = some c then some word.dropLast else none

def Arith.ofMnemonic? (word : List Char) : Option Arith :=
  [Arith.add, .sub, .mul, .div].find? fun op => word = op.mnemonic.toList

def Instr.ofWords? (words : List (List Char)) : Option Instr :=
  match words.map String.ofList, words with
  | [_, "=l", "alloc4", "4"], [slot, _, _, _] => do return .alloc (← slot? slot)
  | [_, "=w", "copy", _], [target, _, _, value] => do
      return .copy (← temp? target) (← Text.signedDecimal? value)
  | [_, "=w", "loadw", _], [target, _, _, slot] => do
      return .load (← temp? target) (← slot? slot)
  | [_, "=w", _, _, _], [target, _, op, left, right] => do
      return .arith (← Arith.ofMnemonic? op) (← temp? target)
        (← endedBy? ',' left >>= temp?) (← temp? right)
  | ["storew", _, _], [_, temp, slot] => do
      return .store (← endedBy? ',' temp >>= temp?) (← slot? slot)
  | ["call", "$printf(l", "$fmt_int,", "...,", "w", _], [_, _, _, _, _, temp] => do
      return .print (← endedBy? ')' temp >>= temp?)
  | ["ret", "0"], _ => some .ret
  | _, _ => none

/-- The instruction that a line spells, without its indent. -/
def Instr.read? (line : List Char) : Option Instr :=
  Instr.ofWords? (line.splitOn ' ')

/-- The instructions of lines that start with a tab, up to the end of the function. -/
def Code.ofLines? : List (List Char) → Option Code
  | ('\t' :: line) :: rest => do return (← Instr.read? line) :: (← Code.ofLines? rest)
  | [['\x7d'], []] => some []
  | _ => none

/-- The code that a text spells. -/
def Code.read? (text : String) : Option Code :=
  let lines := text.toList.splitOn '\n'
  if lines.take codeHeader.length = codeHeader.map String.toList then
    Code.ofLines? (lines.drop codeHeader.length)
  else none

end StraightLine
