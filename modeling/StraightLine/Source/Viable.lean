import StraightLine.Source.Grammar

/-! Where the reading of tokens goes wrong, said without reading them: which tokens can be the start
of a program, and which token an error speaks of. -/

namespace StraightLine

/-- Whether an error speaks of a token: it has the token's offset, and its kind or, if it is a number
without a value, its text. -/
def SyntaxError.PointsAt (error : SyntaxError) (token : Token) : Prop :=
  (∃ expected, error = .unexpectedToken token.pos expected token.kind) ∨
    token.kind = .number ∧ error = .invalidLiteral token.pos token.text

namespace Source

/-- The end of input: the first token of this kind, or one after all tokens. -/
def endToken (stop : Nat) (tokens : List Token) : Token :=
  (tokens.find? (·.kind = .eof)).getD ⟨.eof, "", stop⟩

/-- Tokens up to the end of input, which is put after the last one if it is missing. -/
def throughEof (tokens : List Token) : List Token :=
  untilEof tokens ++ [endToken (endOf tokens) tokens]

/-- Whether there is a program that starts with these tokens. -/
def Viable (tokens : List Token) : Prop :=
  ∃ rest program, parse (tokens ++ rest) = .ok program

/-- A name stands where a statement starts and has no equals sign after it. -/
structure LoneName (tokens : List Token) (i : Nat) : Prop where
  name : ∃ token, tokens[i]? = some token ∧ token.kind = .identifier
  starts : i = 0 ∨ ∃ token, tokens[i - 1]? = some token ∧ token.kind = .newline
  unassigned : ∃ token, tokens[i + 1]? = some token ∧ token.kind ≠ .equals

end Source

end StraightLine
