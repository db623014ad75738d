import StraightLine.Sandbox.Numeral
import StraightLine.Sandbox.Script

/-! Arithmetic in scripts: the operators of the C language on numbers of 64 bits, with variables
that may be assigned to. -/

namespace StraightLine.Sandbox

/-- The parts that an expression is made of. -/
inductive ArithToken where
  | number (value : Int)
  | name (name : String)
  | operator (text : String)
  deriving DecidableEq, Repr

/-- The operators, longer ones first. -/
def arithOperators : List String :=
  ["<<=", ">>=", "<<", ">>", "<=", ">=", "==", "!=", "&&", "||", "*=", "/=", "%=", "+=", "-=", "&=",
    "^=", "|=", "<", ">", "=", "!", "~", "*", "/", "%", "+", "-", "&", "^", "|", "?", ":", "(", ")"]

/-- The parts of an expression. A character that is no part of any stands as an operator. -/
def arithTokens (fuel : Nat) (chars : List Char) : List ArithToken :=
  match fuel, chars with
  | 0, _ => []
  | _, [] => []
  | fuel + 1, c :: rest =>
      if c = ' ' ∨ c = '\t' ∨ c = '\n' then arithTokens fuel rest
      else if c.isDigit then
        match magnitude? chars with
        | some (n, after) =>
            .number (if greatestNumber < n then greatestNumber else n) :: arithTokens fuel after
        | none => [.operator c.toString]
      else if isNameStart c then
        let name := chars.takeWhile isNameChar
        .name (String.ofList name) :: arithTokens fuel (chars.drop name.length)
      else
        match arithOperators.find? fun text => text.toList.isPrefixOf chars with
        | some text => .operator text :: arithTokens fuel (chars.drop text.length)
        | none => .operator c.toString :: arithTokens fuel rest

/-- What is left of an expression, what variables hold, and what has been assigned, last one first.
-/
structure Calculating where
  tokens : List ArithToken
  values : String → Option String
  assigned : List (String × Int) := []

/-- A step of a calculation, which may end in a complaint. -/
abbrev Calculation := StateT Calculating (Except String)

/-- How tightly an operator between two numbers binds. -/
def arithRank? : String → Option Nat
  | "*" => some 8
  | "/" => some 8
  | "%" => some 8
  | "+" => some 7
  | "-" => some 7
  | "<<" => some 6
  | ">>" => some 6
  | "<" => some 5
  | "<=" => some 5
  | ">" => some 5
  | ">=" => some 5
  | "==" => some 4
  | "!=" => some 4
  | "&" => some 3
  | "^" => some 2
  | "|" => some 1
  | _ => none

def truthValue (truth : Bool) : Int :=
  if truth then 1 else 0

/-- A number by its 64 bits. -/
def numberBits (n : Int) : BitVec 64 :=
  BitVec.ofInt 64 n

def arithApply (operator : String) (left right : Int) : Except String Int :=
  match operator with
  | "*" => .ok (wrapNumber (left * right))
  | "/" => if right = 0 then .error "division by zero" else .ok (wrapNumber (left.tdiv right))
  | "%" => if right = 0 then .error "division by zero" else .ok (left.tmod right)
  | "+" => .ok (wrapNumber (left + right))
  | "-" => .ok (wrapNumber (left - right))
  | "<<" => .ok (numberBits left <<< (right % 64).toNat).toInt
  | ">>" => .ok ((numberBits left).sshiftRight (right % 64).toNat).toInt
  | "<" => .ok (truthValue (left < right))
  | "<=" => .ok (truthValue (left ≤ right))
  | ">" => .ok (truthValue (left > right))
  | ">=" => .ok (truthValue (left ≥ right))
  | "==" => .ok (truthValue (left == right))
  | "!=" => .ok (truthValue (left != right))
  | "&" => .ok (numberBits left &&& numberBits right).toInt
  | "^" => .ok (numberBits left ^^^ numberBits right).toInt
  | _ => .ok (numberBits left ||| numberBits right).toInt

/-- The operator in front of the equals sign of an assignment, empty for a plain one. -/
def assignOperator? (text : String) : Option String :=
  if text ∈ ["=", "*=", "/=", "%=", "+=", "-=", "<<=", ">>=", "&=", "^=", "|="] then
    some (text.dropEnd 1).copy
  else none

namespace Calculation

def peek : Calculation (Option ArithToken) :=
  return (← get).tokens.head?

def drop : Calculation Unit :=
  modify fun state => { state with tokens := state.tokens.tail }

def value (name : String) : Calculation Int := do
  let state ← get
  match state.assigned.lookup name with
  | some n => return n
  | none =>
      let text := (state.values name).getD ""
      if text.isEmpty then return 0
      match leadingNumber? text.toList with
      | some (n, rest) =>
          if (rest.dropWhile isSpaceChar).isEmpty then return n
          else throw ("Illegal number: " ++ text)
      | none => throw ("Illegal number: " ++ text)

/-- Applies an operator, unless the result is not asked for. -/
def apply (idle : Bool) (operator : String) (left right : Int) : Calculation Int :=
  if idle then return right else StateT.lift (arithApply operator left right)

mutual

/-- A number, a variable, or an expression in parentheses, with the signs in front of it. -/
def primary (fuel : Nat) (idle : Bool) : Calculation Int := do
  match fuel with
  | 0 => throw "expecting primary"
  | fuel + 1 =>
      match ← peek with
      | some (.number n) =>
          drop
          return n
      | some (.name name) =>
          drop
          if idle then return 0 else value name
      | some (.operator "(") =>
          drop
          let n ← assignment fuel idle
          if (← peek) ≠ some (.operator ")") then throw "expecting ')'"
          drop
          return n
      | some (.operator "+") =>
          drop
          primary fuel idle
      | some (.operator "-") =>
          drop
          return wrapNumber (-(← primary fuel idle))
      | some (.operator "!") =>
          drop
          return truthValue ((← primary fuel idle) == 0)
      | some (.operator "~") =>
          drop
          return -(← primary fuel idle) - 1
      | _ => throw "expecting primary"

/-- The rest of a chain of operators that bind at least as tightly as `rank`. -/
def chain (fuel : Nat) (idle : Bool) (rank : Nat) (left : Int) : Calculation Int := do
  match fuel with
  | 0 => throw "expecting primary"
  | fuel + 1 =>
      match ← peek with
      | some (.operator text) =>
          match arithRank? text with
          | none => return left
          | some found =>
              if found < rank then return left
              else do
                drop
                let right ← primary fuel idle
                let right ← chain fuel idle (found + 1) right
                let result ← apply idle text left right
                chain fuel idle rank result
      | _ => return left

def conjunction (fuel : Nat) (idle : Bool) : Calculation Int := do
  match fuel with
  | 0 => throw "expecting primary"
  | fuel + 1 =>
      let first ← primary fuel idle
      let left ← chain fuel idle 0 first
      if (← peek) = some (.operator "&&") then
        drop
        let right ← conjunction fuel (idle || left == 0)
        return truthValue (left != 0 && right != 0)
      return left

def disjunction (fuel : Nat) (idle : Bool) : Calculation Int := do
  match fuel with
  | 0 => throw "expecting primary"
  | fuel + 1 =>
      let left ← conjunction fuel idle
      if (← peek) = some (.operator "||") then
        drop
        let right ← disjunction fuel (idle || left != 0)
        return truthValue (left != 0 || right != 0)
      return left

/-- A choice between two expressions, or no choice. -/
def choice (fuel : Nat) (idle : Bool) : Calculation Int := do
  match fuel with
  | 0 => throw "expecting primary"
  | fuel + 1 =>
      let test ← disjunction fuel idle
      if (← peek) = some (.operator "?") then
        drop
        let yes ← assignment fuel (idle || test == 0)
        if (← peek) ≠ some (.operator ":") then throw "expecting ':'"
        drop
        let no ← choice fuel (idle || test != 0)
        return if test == 0 then no else yes
      return test

/-- An assignment, or an expression that is none. -/
def assignment (fuel : Nat) (idle : Bool) : Calculation Int := do
  match fuel with
  | 0 => throw "expecting primary"
  | fuel + 1 =>
      match (← get).tokens with
      | .name name :: .operator text :: _ =>
          match assignOperator? text with
          | none => choice fuel idle
          | some operator => do
              drop
              drop
              let right ← assignment fuel idle
              if idle then return right
              let result ←
                if operator.isEmpty then pure right
                else do
                  let left ← value name
                  apply false operator left right
              modify fun state => { state with assigned := (name, result) :: state.assigned }
              return result
      | _ => choice fuel idle

end

def whole (fuel : Nat) : Calculation Int := do
  let n ← assignment fuel false
  if (← peek).isSome then throw "expecting EOF"
  return n

end Calculation

/-- The value of an expression and what it assigns, in order. -/
def calculate (values : String → Option String) (text : String) :
    Except String (Int × List (String × Int)) :=
  let tokens := arithTokens (text.length + 1) text.toList
  match (Calculation.whole (8 * tokens.length + 16)).run { tokens, values } with
  | .ok (n, state) => .ok (n, state.assigned.reverse)
  | .error reason =>
      .error (if reason.startsWith "Illegal" then reason
        else "arithmetic expression: " ++ reason ++ ": \"" ++ text ++ "\"")

end StraightLine.Sandbox
