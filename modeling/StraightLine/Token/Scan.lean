import StraightLine.SyntaxError
import StraightLine.Text.Classes

/-! Splitting a program text into tokens. Blanks separate and mean nothing else; newlines, operators
and parentheses stand alone; numbers and names extend as far as their characters go. -/

namespace StraightLine

/-- Blanks separate tokens: space, tab and carriage return. -/
def isBlank (c : Char) : Bool :=
  c == ' ' || c == '\t' || c == '\r'

/-- A name starts with a letter of any script or an underscore. -/
def startsName (c : Char) : Bool :=
  Text.isAlphabetic c || c == '_'

/-- A name goes on with letters and numbers of any script and underscores. -/
def continuesName (c : Char) : Bool :=
  Text.isAlphabetic c || Text.isNumeric c || c == '_'

def TokenKind.ofChar? : Char → Option TokenKind
  | '\n' => some .newline
  | '=' => some .equals
  | '+' => some .plus
  | '-' => some .minus
  | '*' => some .star
  | '/' => some .slash
  | '%' => some .percent
  | '(' => some .leftParen
  | ')' => some .rightParen
  | _ => none

/-- The kind of a word that starts like a name. -/
def TokenKind.ofWord (word : List Char) : TokenKind :=
  if word = "print".toList then .print else .identifier

/-- The longest token at the start of `c :: rest`: its kind, its characters and what follows them.
-/
def munch? (c : Char) (rest : List Char) : Option (TokenKind × List Char × List Char) :=
  match TokenKind.ofChar? c with
  | some kind => some (kind, [c], rest)
  | none =>
      if c.isDigit then
        some (.number, c :: rest.takeWhile Char.isDigit, rest.dropWhile Char.isDigit)
      else if startsName c then
        let word := c :: rest.takeWhile continuesName
        some (TokenKind.ofWord word, word, rest.dropWhile continuesName)
      else none

theorem length_le_of_munch? {c : Char} {rest : List Char} {kind : TokenKind}
    {word after : List Char} (h : munch? c rest = some (kind, word, after)) :
    after.length ≤ rest.length := by
  simp only [munch?] at h
  split at h
  · simp_all
  · split at h
    · simp only [Option.some.injEq, Prod.mk.injEq] at h
      rw [← h.2.2]
      exact (List.dropWhile_suffix _).length_le
    · split at h
      · simp only [Option.some.injEq, Prod.mk.injEq] at h
        rw [← h.2.2]
        exact (List.dropWhile_suffix _).length_le
      · cases h

/-- The tokens of a text whose first character has the byte offset `pos`, the end of input last. -/
def scanFrom (pos : Nat) (chars : List Char) : Except SyntaxError (List Token) :=
  match chars with
  | [] => .ok [⟨.eof, "", pos⟩]
  | c :: rest =>
      if isBlank c then scanFrom (pos + c.utf8Size) rest
      else
        match h : munch? c rest with
        | none => .error (.unexpectedCharacter pos c)
        | some (kind, word, after) =>
            have := length_le_of_munch? h
            let token : Token := ⟨kind, String.ofList word, pos⟩
            do return token :: (← scanFrom token.stop after)
termination_by chars.length

/-- The tokens of a text, or the first character that belongs to none. -/
def scan (text : String) : Except SyntaxError (List Token) :=
  scanFrom 0 text.toList

end StraightLine
