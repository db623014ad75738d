/-! Patterns over octets: stars, question marks and sets of characters. -/

namespace StraightLine.Sandbox

/-- A character of a pattern. One that is quoted only stands for itself. -/
structure PatternChar where
  char : Char
  quoted : Bool := false
  deriving DecidableEq, Repr

abbrev Pattern := List PatternChar

/-- The classes of characters that have names. -/
def inClass (name : String) (c : Char) : Bool :=
  match name with
  | "alnum" => c.isAlphanum
  | "alpha" => c.isAlpha
  | "blank" => c == ' ' || c == '\t'
  | "cntrl" => c.toNat < 32 || c.toNat == 127
  | "digit" => c.isDigit
  | "graph" => 32 < c.toNat && c.toNat < 127
  | "lower" => c.isLower
  | "print" => 32 ≤ c.toNat && c.toNat < 127
  | "punct" => 32 < c.toNat && c.toNat < 127 && !c.isAlphanum
  | "space" => c == ' ' || (9 ≤ c.toNat && c.toNat ≤ 13)
  | "upper" => c.isUpper
  | "xdigit" => c.isDigit || ('a' ≤ c && c ≤ 'f') || ('A' ≤ c && c ≤ 'F')
  | _ => false

/-- The name of a class that pattern characters start with, after the opening bracket and colon, and
how many characters it takes with its end. -/
def className? (pattern : Pattern) : Option (String × Nat) :=
  let name := pattern.takeWhile fun c => c.char.isAlpha
  match pattern.drop name.length with
  | ⟨':', _⟩ :: ⟨']', _⟩ :: _ =>
      some (String.ofList (name.map (·.char)), name.length + 2)
  | _ => none

/-- Whether a set holds a character, and the pattern after the set. Nothing if the set has no end.
`first` says that nothing has been read of the set, so that a closing bracket stands for itself. -/
def inSet? (c : Char) (fuel : Nat) (first : Bool) (found : Bool) (pattern : Pattern) :
    Option (Bool × Pattern) :=
  match fuel, pattern with
  | 0, _ => none
  | _, [] => none
  | fuel + 1, ⟨']', false⟩ :: rest =>
      if first then inSet? c fuel false (found || c == ']') rest else some (found, rest)
  | fuel + 1, ⟨'[', false⟩ :: ⟨':', false⟩ :: rest =>
      match className? rest with
      | some (name, used) => inSet? c fuel false (found || inClass name c) (rest.drop used)
      | none => inSet? c fuel false (found || c == '[' || c == ':') rest
  | fuel + 1, low :: ⟨'-', false⟩ :: high :: rest =>
      if high = ⟨']', false⟩ then
        inSet? c fuel false (found || c == low.char || c == '-') (high :: rest)
      else inSet? c fuel false (found || (low.char ≤ c && c ≤ high.char)) rest
  | fuel + 1, one :: rest => inSet? c fuel false (found || c == one.char) rest

/-- Whether a set matches a character, and the pattern after the set. -/
def matchSet? (c : Char) (pattern : Pattern) : Option (Bool × Pattern) :=
  match pattern with
  | ⟨'!', false⟩ :: rest => (inSet? c (rest.length + 1) true false rest).map fun (b, p) => (!b, p)
  | rest => inSet? c (rest.length + 1) true false rest

/-- Whether a pattern matches a whole text. -/
def matchesFrom (fuel : Nat) (pattern : Pattern) (text : List Char) : Bool :=
  match fuel with
  | 0 => false
  | fuel + 1 =>
      match pattern, text with
      | [], [] => true
      | [], _ :: _ => false
      | ⟨'*', false⟩ :: rest, [] => matchesFrom fuel rest []
      | ⟨'*', false⟩ :: rest, c :: text =>
          matchesFrom fuel rest (c :: text) || matchesFrom fuel (⟨'*', false⟩ :: rest) text
      | _ :: _, [] => false
      | ⟨'?', false⟩ :: rest, _ :: text => matchesFrom fuel rest text
      | ⟨'[', false⟩ :: rest, c :: text =>
          match matchSet? c rest with
          | some (found, rest) => found && matchesFrom fuel rest text
          | none => c == '[' && matchesFrom fuel rest text
      | one :: rest, c :: text => one.char == c && matchesFrom fuel rest text

def Pattern.covers (pattern : Pattern) (text : List Char) : Bool :=
  matchesFrom (pattern.length + text.length + 1) pattern text

/-- Whether a pattern has characters that stand for others. -/
def Pattern.isOpen (pattern : Pattern) : Bool :=
  pattern.any fun c => !c.quoted && c.char ∈ ['*', '?', '[']

/-- How long the part of a text is that a pattern matches from its front, the longest or the
shortest one. -/
def Pattern.frontLength? (pattern : Pattern) (longest : Bool) (text : List Char) : Option Nat :=
  let lengths := List.range (text.length + 1)
  (if longest then lengths.reverse else lengths).find? fun n => pattern.covers (text.take n)

/-- A text without what a pattern matches at its front. -/
def Pattern.cutFront (pattern : Pattern) (longest : Bool) (text : List Char) : List Char :=
  match pattern.frontLength? longest text with
  | some n => text.drop n
  | none => text

/-- A text without what a pattern matches at its end. -/
def Pattern.cutBack (pattern : Pattern) (longest : Bool) (text : List Char) : List Char :=
  let lengths := List.range (text.length + 1)
  let found := (if longest then lengths else lengths.reverse).find? fun n =>
    pattern.covers (text.drop n)
  match found with
  | some n => text.take n
  | none => text

end StraightLine.Sandbox
