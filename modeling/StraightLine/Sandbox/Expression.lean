import StraightLine.Sandbox.Pattern

/-! Regular expressions over octets: characters, points, sets, stars, and the ends of a line. -/

namespace StraightLine.Sandbox

/-- What one character of a line is compared with. -/
inductive ExpressionAtom where
  | any
  | char (c : Char)
  | oneOf (opposite : Bool) (pattern : Pattern)
  deriving DecidableEq, Repr

/-- A part of an expression: a character so many times, or an end of the line. -/
inductive ExpressionPart where
  | atom (atom : ExpressionAtom) (least : Nat) (most : Option Nat)
  | start
  | finish
  deriving DecidableEq, Repr

def ExpressionAtom.accepts (atom : ExpressionAtom) (c : Char) : Bool :=
  match atom with
  | .any => true
  | .char d => c == d
  | .oneOf opposite pattern =>
      match inSet? c (pattern.length + 1) true false pattern with
      | some (found, _) => found != opposite
      | none => false

/-- The set that characters start with, after its opening bracket, and what comes after it. -/
def expressionSet (chars : List Char) : ExpressionAtom × List Char :=
  let (opposite, chars) :=
    match chars with
    | '^' :: rest => (true, rest)
    | rest => (false, rest)
  let first := (chars.take 1).filter (· == ']')
  let body := first ++ (chars.drop first.length).takeWhile (· ≠ ']')
  let pattern : Pattern := (body ++ [']']).map fun c => ⟨c, false⟩
  (.oneOf opposite pattern, chars.drop (body.length + 1))

/-- The repetition that characters start with, and what comes after it. -/
def expressionCount (extended : Bool) (chars : List Char) : Nat × Option Nat × List Char :=
  match chars with
  | '*' :: rest => (0, none, rest)
  | '+' :: rest => if extended then (1, none, rest) else (1, some 1, chars)
  | '?' :: rest => if extended then (0, some 1, rest) else (1, some 1, chars)
  | chars => (1, some 1, chars)

/-- The parts of an expression. `first` says that nothing stands before them. -/
def expressionParts (extended : Bool) (fuel : Nat) (first : Bool) (chars : List Char) :
    List ExpressionPart :=
  match fuel, chars with
  | 0, _ => []
  | _, [] => []
  | fuel + 1, '^' :: rest =>
      if first then .start :: expressionParts extended fuel true rest
      else .atom (.char '^') 1 (some 1) :: expressionParts extended fuel false rest
  | _, ['$'] => [.finish]
  | fuel + 1, c :: rest =>
      let (atom, rest) : ExpressionAtom × List Char :=
        match c, rest with
        | '.', rest => (.any, rest)
        | '[', rest => expressionSet rest
        | '\\', d :: rest => (.char d, rest)
        | c, rest => (.char c, rest)
      let (least, most, rest) := expressionCount extended rest
      .atom atom least most :: expressionParts extended fuel false rest

/-- How many characters parts match at the front of a text, the longest way first. -/
def expressionLength? (fuel : Nat) (start : Bool) (parts : List ExpressionPart)
    (text : List Char) : Option Nat :=
  match fuel, parts with
  | 0, _ => none
  | _, [] => some 0
  | fuel + 1, .start :: rest => if start then expressionLength? fuel start rest text else none
  | fuel + 1, .finish :: rest =>
      if text.isEmpty then expressionLength? fuel start rest text else none
  | fuel + 1, .atom atom least most :: rest =>
      let run := (text.takeWhile atom.accepts).length
      let run := match most with
        | some most => min run most
        | none => run
      if run < least then none
      else
        ((List.range (run - least + 1)).reverse.map (· + least)).findSome? fun n =>
          (expressionLength? fuel (start && n == 0) rest (text.drop n)).map (· + n)

/-- Where in a line an expression matches first, and how many characters. -/
def expressionFind? (parts : List ExpressionPart) (text : List Char) : Option (Nat × Nat) :=
  (List.range (text.length + 1)).findSome? fun n =>
    (expressionLength? (parts.length + 1) (n == 0) parts (text.drop n)).map fun length =>
      (n, length)

end StraightLine.Sandbox
