/-! Shell scripts as they are read: words with what is to be put into them, redirections, and
commands made of commands. Text in scripts is text of octets. -/

namespace StraightLine.Sandbox

/-- What is done with the value of a parameter. Where `orEmpty` says so, an empty value counts as
none. -/
inductive Modifier where
  | plain
  | length
  | useDefault (orEmpty : Bool)
  | assignDefault (orEmpty : Bool)
  | require (orEmpty : Bool)
  | alternative (orEmpty : Bool)
  | cutFront (longest : Bool)
  | cutBack (longest : Bool)
  | bad
  deriving DecidableEq, Repr

inductive OpenMode where
  | input
  | overwrite
  | append
  | update
  deriving DecidableEq, Repr

mutual

/-- A part of a word: text as it stands, or something that is replaced by text. What is quoted stays
in one word. -/
inductive Piece where
  | text (quoted : Bool) (text : String)
  | param (quoted : Bool) (name : String) (modifier : Modifier) (word : List Piece)
  | output (quoted : Bool) (commands : List Command)
  | arithmetic (quoted : Bool) (expression : List Piece)

/-- A change to what a descriptor leads to: a file, what another descriptor leads to, or a text. -/
inductive Redirect where
  | file (descriptor : Nat) (mode : OpenMode) (path : List Piece)
  | duplicate (descriptor : Nat) (source : List Piece)
  | document (descriptor : Nat) (body : List Piece)

/-- A command, with the line it stands on where complaints name it. -/
inductive Command where
  | simple (line : Nat) (assignments : List (String × List Piece)) (words : List (List Piece))
      (redirects : List Redirect)
  | pipeline (stages : List Command)
  | negated (command : Command)
  | both (left right : Command)
  | either (left right : Command)
  | sequence (commands : List Command)
  | background (command : Command)
  | subshell (line : Nat) (body : Command) (redirects : List Redirect)
  | redirected (line : Nat) (body : Command) (redirects : List Redirect)
  | conditional (test consequence : Command) (alternative : Option Command)
  | loop (whileTrue : Bool) (test body : Command)
  | forEach (line : Nat) (name : String) (words : Option (List (List Piece))) (body : Command)
  | choose (line : Nat) (subject : List Piece) (clauses : List (List (List Piece) × Command))
  | define (line : Nat) (name : String) (body : Command)

end

/-- A word is its parts in order. -/
abbrev ShellWord := List Piece

/-- Why a script cannot be read further, and on which line. -/
structure SyntaxFault where
  line : Nat
  reason : String
  deriving DecidableEq, Repr

/-- A script: what it does line by line, up to the first fault, if there is one. With every line of
commands stands the number of the line after it. -/
structure Script where
  commands : List (Nat × Command)
  fault : Option SyntaxFault := none

def isNameStart (c : Char) : Bool :=
  c.isAlpha || c == '_'

def isNameChar (c : Char) : Bool :=
  c.isAlphanum || c == '_'

def isName (text : String) : Bool :=
  match text.toList with
  | [] => false
  | c :: rest => isNameStart c && rest.all isNameChar

/-- The commands that are part of every shell and cannot be replaced. -/
def specialCommands : List String :=
  [".", ":", "break", "continue", "eval", "exec", "exit", "export", "local", "readonly", "return",
    "set", "shift", "times", "trap", "unset"]

/-- Whether a character is a parameter by itself. -/
def isSpecialParam (c : Char) : Bool :=
  c.isDigit || c ∈ ['#', '@', '*', '?', '$', '!', '-']

end StraightLine.Sandbox
