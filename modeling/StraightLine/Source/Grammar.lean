import StraightLine.Source.Parse
import StraightLine.Token.Layout

/-! The grammar of programs, as a relation between tokens and the trees they spell:

    program := NEWLINE* (stmt (NEWLINE+ | EOF))*
    stmt    := print expr | IDENT = expr
    expr    := term ((+ | -) term)*
    term    := factor ((* | /) factor)*
    factor  := (+ | -) factor | primary
    primary := NUMBER | IDENT | ( expr )

A repetition is derived from the left with the tree of what stands before it at hand, so that
operators attach to the left. Only kinds of tokens count, apart from the text of names and
numbers. -/

namespace StraightLine

namespace Source

/-- The text of a literal: a sign or none and at least one ASCII digit. Its value is a signed 64-bit
integer. -/
inductive Numeral (text : String) : Int → Prop where
  | plain {digits : List Char} (htext : text.toList = digits) (hne : digits ≠ [])
      (hdigits : ∀ c ∈ digits, c.isDigit) (hfits : FitsLiteral (Nat.ofDigitChars 10 digits 0)) :
      Numeral text (Nat.ofDigitChars 10 digits 0)
  | plus {digits : List Char} (htext : text.toList = '+' :: digits) (hne : digits ≠ [])
      (hdigits : ∀ c ∈ digits, c.isDigit) (hfits : FitsLiteral (Nat.ofDigitChars 10 digits 0)) :
      Numeral text (Nat.ofDigitChars 10 digits 0)
  | minus {digits : List Char} (htext : text.toList = '-' :: digits) (hne : digits ≠ [])
      (hdigits : ∀ c ∈ digits, c.isDigit) (hfits : FitsLiteral (-Nat.ofDigitChars 10 digits 0)) :
      Numeral text (-Nat.ofDigitChars 10 digits 0)

/-- The phrases that expressions are made of. The repetitions of terms and of factors come with the
tree of what stands to their left. -/
inductive Phrase where
  | expr
  | moreTerms (left : Expr)
  | term
  | moreFactors (left : Expr)
  | factor
  | primary

/-- The tokens of a phrase and the tree that they spell. -/
inductive Derives : Phrase → List Token → Expr → Prop where
  | expr {first more : List Token} {left tree : Expr} (hfirst : Derives .term first left)
      (hmore : Derives (.moreTerms left) more tree) : Derives .expr (first ++ more) tree
  | noMoreTerms (left : Expr) : Derives (.moreTerms left) [] left
  | nextTerm {token : Token} {op : Operator} {next more : List Token} {left right tree : Expr}
      (hop : token.kind.sum? = some op) (hnext : Derives .term next right)
      (hmore : Derives (.moreTerms (.binary op left right)) more tree) :
      Derives (.moreTerms left) (token :: next ++ more) tree
  | term {first more : List Token} {left tree : Expr} (hfirst : Derives .factor first left)
      (hmore : Derives (.moreFactors left) more tree) : Derives .term (first ++ more) tree
  | noMoreFactors (left : Expr) : Derives (.moreFactors left) [] left
  | nextFactor {token : Token} {op : Operator} {next more : List Token} {left right tree : Expr}
      (hop : token.kind.product? = some op) (hnext : Derives .factor next right)
      (hmore : Derives (.moreFactors (.binary op left right)) more tree) :
      Derives (.moreFactors left) (token :: next ++ more) tree
  | signed {token : Token} {sign : Sign} {tokens : List Token} {tree : Expr}
      (hsign : token.kind.sign? = some sign) (h : Derives .factor tokens tree) :
      Derives .factor (token :: tokens) (.unary sign tree)
  | primary {tokens : List Token} {tree : Expr} (h : Derives .primary tokens tree) :
      Derives .factor tokens tree
  | number {token : Token} {value : Int} (hkind : token.kind = .number)
      (hvalue : Numeral token.text value) : Derives .primary [token] (.int value)
  | name {token : Token} (hkind : token.kind = .identifier) :
      Derives .primary [token] (.var token.text)
  | parens {opening closing : Token} {tokens : List Token} {tree : Expr}
      (hopen : opening.kind = .leftParen) (hclose : closing.kind = .rightParen)
      (h : Derives .expr tokens tree) : Derives .primary (opening :: tokens ++ [closing]) tree

/-- The tokens of a statement. -/
inductive DerivesStmt : List Token → Stmt → Prop where
  | print {token : Token} {tokens : List Token} {tree : Expr} (hkind : token.kind = .print)
      (h : Derives .expr tokens tree) : DerivesStmt (token :: tokens) (.print tree)
  | assign {name equals : Token} {tokens : List Token} {tree : Expr}
      (hname : name.kind = .identifier) (hequals : equals.kind = .equals)
      (h : Derives .expr tokens tree) :
      DerivesStmt (name :: equals :: tokens) (.assign name.text tree)

def Newlines (tokens : List Token) : Prop :=
  ∀ token ∈ tokens, token.kind = .newline

/-- Statements that each have newlines or the end of input after them. -/
inductive DerivesLines : List Token → Program → Prop where
  | done : DerivesLines [] []
  | last {tokens : List Token} {stmt : Stmt} (h : DerivesStmt tokens stmt) :
      DerivesLines tokens [stmt]
  | line {tokens newlines rest : List Token} {stmt : Stmt} {program : Program}
      (h : DerivesStmt tokens stmt) (hne : newlines ≠ []) (hnewlines : Newlines newlines)
      (hrest : DerivesLines rest program) :
      DerivesLines (tokens ++ newlines ++ rest) (stmt :: program)

/-- The tokens of a program: newlines, and then its statements. -/
inductive DerivesProgram : List Token → Program → Prop where
  | intro {newlines rest : List Token} {program : Program} (hnewlines : Newlines newlines)
      (hrest : DerivesLines rest program) : DerivesProgram (newlines ++ rest) program

/-- The tokens before the first end of input. -/
def untilEof (tokens : List Token) : List Token :=
  tokens.takeWhile (·.kind ≠ .eof)

/-! Not every tree can be written down. A literal has no sign of its own, a variable has a name that
is not taken, and a remainder has no place in the grammar. -/

def IsVariable (name : String) : Prop :=
  IsName name.toList ∧ name ≠ "print"

/-- Whether there is a text for an expression. -/
def Expr.Writable : Expr → Prop
  | .int value => 0 ≤ value ∧ FitsLiteral value
  | .var name => IsVariable name
  | .unary _ operand => operand.Writable
  | .binary op left right => op ≠ .rem ∧ left.Writable ∧ right.Writable

def Stmt.Writable : Stmt → Prop
  | .assign name value => IsVariable name ∧ value.Writable
  | .print value => value.Writable

def Program.Writable (program : Program) : Prop :=
  ∀ stmt ∈ program, stmt.Writable

end Source

end StraightLine
