import StraightLine.Text.Glyphless

/-! Text in double quotes, as messages show names and paths. Quotes, backslashes and the common
control characters are written with a backslash, characters that show nothing of their own by their
code point. -/

namespace StraightLine.Text

def hexPoint (c : Char) : String :=
  String.ofList (Nat.toDigits 16 c.toNat)

/-- A character by its code point. -/
def pointEscape (c : Char) : String :=
  "\\u\x7b" ++ hexPoint c ++ "\x7d"

def quotedChar (c : Char) : String :=
  match c with
  | '\x00' => "\\0"
  | '\t' => "\\t"
  | '\r' => "\\r"
  | '\n' => "\\n"
  | '\\' => "\\\\"
  | '"' => "\\\""
  | c => if isGlyphless c then pointEscape c else c.toString

/-- A name or a path in double quotes. -/
def quoted (text : String) : String :=
  "\"" ++ String.join (text.toList.map quotedChar) ++ "\""

/-- A character of a message that is shown on a terminal: the controls a terminal acts on are
spelled out. -/
def terminalChar (c : Char) : String :=
  match c with
  | '\x1b' => "\\x1b"
  | '\x07' => "\\x07"
  | '\x08' => "\\x08"
  | '\x0c' => "\\x0c"
  | '\x7f' => "\\x7f"
  | c => if 0x80 ≤ c.toNat ∧ c.toNat ≤ 0x9f then pointEscape c else c.toString

/-- A message safe to show on a terminal. -/
def terminalSafe (text : String) : String :=
  String.join (text.toList.map terminalChar)

end StraightLine.Text
