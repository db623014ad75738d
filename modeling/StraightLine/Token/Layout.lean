import StraightLine.Token.Scan

/-! Where tokens stand in a text, said without scanning it: how each kind of token is spelled, what
may not follow a token, what may stand between tokens, and which characters belong nowhere. -/

namespace StraightLine

/-- The character of newlines, operators and parentheses. -/
def TokenKind.mark? : TokenKind → Option Char
  | .newline => some '\n'
  | .equals => some '='
  | .plus => some '+'
  | .minus => some '-'
  | .star => some '*'
  | .slash => some '/'
  | .percent => some '%'
  | .leftParen => some '('
  | .rightParen => some ')'
  | .eof | .number | .identifier | .print => none

def IsName : List Char → Prop
  | [] => False
  | c :: rest => startsName c ∧ ∀ d ∈ rest, continuesName d

/-- Whether a word is spelled as tokens of a kind are. Of all words that read like names only `print`
is no identifier. -/
def TokenKind.Spells (kind : TokenKind) (word : List Char) : Prop :=
  match kind with
  | .eof => word = []
  | .number => word ≠ [] ∧ ∀ c ∈ word, c.isDigit
  | .identifier => IsName word ∧ word ≠ "print".toList
  | .print => IsName word ∧ word = "print".toList
  | _ => ∃ c, kind.mark? = some c ∧ word = [c]

/-- Whether a token of a kind would take in the character after it. -/
def TokenKind.extendedBy (kind : TokenKind) (c : Char) : Bool :=
  match kind with
  | .number => c.isDigit
  | .identifier | .print => continuesName c
  | _ => false

/-- How many bytes characters take in UTF-8. -/
def byteLength (chars : List Char) : Nat :=
  (String.ofList chars).utf8ByteSize

/-- A token that stands in characters of which the first has the byte offset `pos`: its text is cut
out of them where its own offset says, is spelled as its kind is, and does not go on after it. -/
def Token.Placed (pos : Nat) (chars : List Char) (token : Token) : Prop :=
  ∃ before after, chars = before ++ token.text.toList ++ after ∧
    token.pos = pos + byteLength before ∧ token.text ≠ "" ∧ token.kind.Spells token.text.toList ∧
    ∀ c, after.head? = some c → token.kind.extendedBy c = false

def Token.Covers (token : Token) (offset : Nat) : Prop :=
  token.pos ≤ offset ∧ offset < token.stop

/-- Tokens laid out in characters of which the first has the byte offset `pos`: none is an end of
input, each is placed among the characters, they follow one another without overlap, and every
character that lies in none of them is a blank. -/
structure Layout (pos : Nat) (chars : List Char) (tokens : List Token) : Prop where
  kinds : ∀ token ∈ tokens, token.kind ≠ .eof
  placed : ∀ token ∈ tokens, token.Placed pos chars
  ordered : tokens.Pairwise fun first second => first.pos < second.pos ∧ first.stop ≤ second.pos
  blanks : ∀ before c after, chars = before ++ c :: after →
    (∀ token ∈ tokens, ¬ token.Covers (pos + byteLength before)) → isBlank c

/-- Whether a token can start with a character: a newline, an operator, a parenthesis, a digit, a
letter of any script or an underscore. -/
def StartsToken (c : Char) : Prop :=
  (∃ kind : TokenKind, kind.mark? = some c) ∨ c.isDigit = true ∨ startsName c = true

/-- Letters and numbers of any script. -/
def isAlphanumeric (c : Char) : Bool :=
  Text.isAlphabetic c || Text.isNumeric c

/-- Whether a text ends in a name: the last of its tokens is a name or `print` and has no blank after
it. -/
def EndsInName (text : String) : Prop :=
  ∃ tokens last stop, scan text = .ok (tokens ++ [last, ⟨.eof, "", stop⟩]) ∧
    (last.kind = .identifier ∨ last.kind = .print) ∧ last.stop = text.utf8ByteSize

/-- A character that belongs nowhere after the text `before`: it is no blank, no token starts with it,
and it does not go on with a name that `before` ends in. -/
structure Stray (before : String) (c : Char) : Prop where
  notBlank : isBlank c = false
  startsNone : ¬ StartsToken c
  continuesNone : ¬ (isAlphanumeric c = true ∧ EndsInName before)

end StraightLine
