import StraightLine.Token

/-! The faults that end the reading of a program text, each with the byte offset it points at. -/

namespace StraightLine

/-- What could have stood where an unexpected token stands. -/
inductive Expected where
  | statement
  | endOfStatement
  | operand
  | closingParen
  deriving DecidableEq, Repr

def Expected.describe : Expected → String
  | .statement => "`print` or assignment"
  | .endOfStatement => "newline or end of input after statement"
  | .operand => "number, identifier, or `(`"
  | .closingParen => "`)`"

/-- Why a text is not a program: a character that belongs to no token, a token where none of its
kind can stand, or a number that is no signed 64-bit literal. -/
inductive SyntaxError where
  | unexpectedCharacter (pos : Nat) (char : Char)
  | unexpectedToken (pos : Nat) (expected : Expected) (found : TokenKind)
  | invalidLiteral (pos : Nat) (text : String)
  deriving DecidableEq, Repr

/-- The byte offset an error points at. -/
def SyntaxError.pos : SyntaxError → Nat
  | .unexpectedCharacter pos _ => pos
  | .unexpectedToken pos _ _ => pos
  | .invalidLiteral pos _ => pos

def SyntaxError.message : SyntaxError → String
  | .unexpectedCharacter pos char =>
      "lexer error at pos " ++ toString pos ++ ": unexpected character '" ++ char.toString ++ "'"
  | .unexpectedToken pos expected found =>
      "parse error at pos " ++ toString pos ++ ": expected " ++ expected.describe ++ ", got "
        ++ found.describe
  | .invalidLiteral pos text =>
      "parse error at pos " ++ toString pos ++ ": invalid int literal '" ++ text ++ "'"

end StraightLine
