/-! Tokens: the words of a program text, each with its kind, its spelling and the byte offset at
which it stands. -/

namespace StraightLine

inductive TokenKind where
  | eof
  | newline
  | number
  | identifier
  | print
  | equals
  | plus
  | minus
  | star
  | slash
  | percent
  | leftParen
  | rightParen
  deriving DecidableEq, Repr

def TokenKind.describe : TokenKind → String
  | .eof => "end of input"
  | .newline => "newline"
  | .number => "number"
  | .identifier => "identifier"
  | .print => "`print`"
  | .equals => "`=`"
  | .plus => "`+`"
  | .minus => "`-`"
  | .star => "`*`"
  | .slash => "`/`"
  | .percent => "`%`"
  | .leftParen => "`(`"
  | .rightParen => "`)`"

/-- A token of kind `kind` spelled `text`; `pos` counts the bytes before it in UTF-8. -/
structure Token where
  kind : TokenKind
  text : String
  pos : Nat
  deriving DecidableEq, Repr

/-- The byte offset just past a token. -/
def Token.stop (token : Token) : Nat :=
  token.pos + token.text.utf8ByteSize

end StraightLine
