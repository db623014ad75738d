import StraightLine.Sandbox.FileTree
import StraightLine.Sandbox.Numeral
import StraightLine.Text.Utf8

/-! Conditions on texts, numbers and files, written as words. -/

namespace StraightLine.Sandbox

/-- What a word is in a condition. -/
inductive ConditionToken where
  | missing
  | operand
  | unary
  | binary
  | negation
  | conjunction
  | disjunction
  | opening
  | closing
  deriving DecidableEq, Repr

def unaryConditions : List String :=
  ["-r", "-w", "-x", "-e", "-f", "-d", "-c", "-b", "-p", "-u", "-g", "-k", "-s", "-t", "-z", "-n",
    "-h", "-O", "-G", "-L", "-S"]

def binaryConditions : List String :=
  ["=", "!=", "<", ">", "-eq", "-ne", "-gt", "-ge", "-lt", "-le", "-nt", "-ot", "-ef"]

/-- What the first of some words is. A word that could be an operator is none where no word is left
for it to work on. -/
def conditionToken : List String → ConditionToken
  | [] => .missing
  | word :: rest =>
      if word ∈ unaryConditions then
        match rest with
        | [] => .operand
        | [_] => .unary
        | next :: _ => if next ∈ binaryConditions then .operand else .unary
      else if word ∈ binaryConditions then .binary
      else
        match word with
        | "!" => .negation
        | "-a" => .conjunction
        | "-o" => .disjunction
        | "(" => if rest.isEmpty then .operand else .opening
        | ")" => .closing
        | _ => .operand

structure ConditionSetting where
  tree : FileTree
  directory : Location

def ConditionSetting.find (setting : ConditionSetting) (follow : Bool) (path : String) :
    Option (Location × Entry) :=
  (setting.tree.findAs follow setting.directory (Text.ofOctets path)).toOption

def ConditionSetting.fileIs (setting : ConditionSetting) (operator path : String) : Bool :=
  if operator = "-h" ∨ operator = "-L" then
    match setting.find false path with
    | some (_, .link _) => true
    | _ => false
  else
    match setting.find true path with
    | none => false
    | some (_, entry) =>
        match operator with
        | "-f" =>
            match entry with
            | .file _ _ => true
            | .utility _ => true
            | _ => false
        | "-d" => entry == .directory
        | "-x" => entry == .directory || entry.isExecutable
        | "-c" => entry == .sink
        | "-s" =>
            match entry with
            | .file bytes _ => !bytes.isEmpty
            | .sink => false
            | _ => true
        | _ => operator ∈ ["-e", "-r", "-w", "-O", "-G"]

def conditionNumber (word : String) : Except String Int :=
  match decimal? word with
  | some n => .ok n
  | none => .error ("Illegal number: " ++ word)

def ConditionSetting.compare (setting : ConditionSetting) (left operator right : String) :
    Except String Bool := do
  match operator with
  | "=" => return left == right
  | "!=" => return left != right
  | "<" => return left < right
  | ">" => return right < left
  | "-ef" =>
      return (setting.find true left).any fun (place, _) =>
        (setting.find true right).any fun (other, _) => setting.tree.same place other
  | "-nt" => return (setting.find true left).isSome && (setting.find true right).isNone
  | "-ot" => return (setting.find true left).isNone && (setting.find true right).isSome
  | _ =>
      let l ← conditionNumber left
      let r ← conditionNumber right
      match operator with
      | "-eq" => return l == r
      | "-ne" => return l != r
      | "-gt" => return l > r
      | "-ge" => return l ≥ r
      | "-lt" => return l < r
      | _ => return l ≤ r

namespace ConditionSetting

variable (setting : ConditionSetting)

mutual

/-- A test of one word or of two, or a condition in parentheses. With the answer goes what is left,
from the last word that was read on. -/
def primary (fuel : Nat) (words : List String) : Except String (Bool × List String) := do
  match fuel with
  | 0 => throw "argument expected"
  | fuel + 1 =>
      match conditionToken words, words with
      | .missing, _ => return (false, words)
      | .opening, _ :: rest =>
          if rest.isEmpty then return (false, words)
          let (truth, rest) ← disjunction fuel rest
          if conditionToken rest.tail ≠ .closing then throw "closing paren expected"
          return (truth, rest.tail)
      | .unary, operator :: rest =>
          match rest with
          | [] => throw (operator ++ ": argument expected")
          | word :: _ =>
              match operator with
              | "-z" => return (word.isEmpty, rest)
              | "-n" => return (!word.isEmpty, rest)
              | "-t" =>
                  let _ ← conditionNumber word
                  return (false, rest)
              | _ => return (setting.fileIs operator word, rest)
      | _, left :: operator :: rest =>
          if conditionToken (operator :: rest) = .binary then
            match rest with
            | [] => throw (operator ++ ": argument expected")
            | right :: _ => return (← setting.compare left operator right, rest)
          else return (!left.isEmpty, words)
      | _, left :: _ => return (!left.isEmpty, words)
      | _, [] => return (false, words)

/-- A test, or the opposite of one. -/
def negation (fuel : Nat) (words : List String) : Except String (Bool × List String) := do
  match fuel with
  | 0 => throw "argument expected"
  | fuel + 1 =>
      if conditionToken words ≠ .negation then primary fuel words
      else if conditionToken words.tail = .missing then return (true, words)
      else
        let (truth, rest) ← negation fuel words.tail
        return (!truth, rest)

def conjunction (fuel : Nat) (words : List String) : Except String (Bool × List String) := do
  match fuel with
  | 0 => throw "argument expected"
  | fuel + 1 =>
      let (left, rest) ← negation fuel words
      if conditionToken rest.tail = .conjunction then
        let (right, rest) ← conjunction fuel (rest.drop 2)
        return (left && right, rest)
      return (left, rest)

def disjunction (fuel : Nat) (words : List String) : Except String (Bool × List String) := do
  match fuel with
  | 0 => throw "argument expected"
  | fuel + 1 =>
      let (left, rest) ← conjunction fuel words
      if conditionToken rest.tail = .disjunction then
        let (right, rest) ← disjunction fuel (rest.drop 2)
        return (left || right, rest)
      return (left, rest)

end

def whole (words : List String) : Except String Bool := do
  let (truth, rest) ← setting.disjunction (8 * words.length + 8) words
  match rest with
  | last :: _ :: _ => throw (last ++ ": unexpected operator")
  | _ => return truth

/-- What a whole condition says. With three words the one in the middle counts as an operator first,
and with three or four a negation or parentheses around the rest. -/
def holds (fuel : Nat) (words : List String) : Except String Bool := do
  match fuel with
  | 0 => throw "argument expected"
  | fuel + 1 =>
      match words with
      | [] => return false
      | [left, operator, right] =>
          if operator ∈ binaryConditions then setting.compare left operator right
          else if left = "(" ∧ right = ")" then setting.whole [operator]
          else if left = "!" then return !(← holds fuel [operator, right])
          else setting.whole words
      | ["!", second, third, fourth] => return !(← holds fuel [second, third, fourth])
      | ["(", second, third, ")"] => setting.whole [second, third]
      | words => setting.whole words

end ConditionSetting

end StraightLine.Sandbox
