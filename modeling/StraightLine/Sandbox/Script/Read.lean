import StraightLine.Sandbox.Script

/-! Reading scripts. A script is read line by line, where a line goes on as long as the command on
it is not complete. -/

namespace StraightLine.Sandbox

/-- What is left of a script: its characters, the line at hand, and how many lines of documents have
been taken out of the text before its next newline. -/
structure Reader where
  rest : List Char
  line : Nat := 1
  taken : Nat := 0

abbrev Reading := StateT Reader (Except SyntaxFault)

namespace Reading

def fail {α : Type} (reason : String) : Reading α := do
  throw ⟨(← get).line, reason⟩

def failAtEnd {α : Type} (reason : String) : Reading α := do
  let reader ← get
  throw ⟨reader.line + reader.taken + (reader.rest.filter (· == '\n')).length, reason⟩

/-- Goes past `count` characters. -/
def drop (count : Nat) : Reading Unit :=
  modify fun reader =>
    let newlines := ((reader.rest.take count).filter (· == '\n')).length
    if newlines = 0 then { reader with rest := reader.rest.drop count }
    else
      { rest := reader.rest.drop count
        line := reader.line + newlines + reader.taken
        taken := 0 }

/-- The characters that are left, after any newlines that a backslash takes back. -/
def joined : List Char → Nat × List Char
  | '\\' :: '\n' :: rest =>
      let (count, rest) := joined rest
      (count + 1, rest)
  | rest => (0, rest)

/-- The characters that are left. -/
def ahead : Reading (List Char) := do
  let (count, _) := joined (← get).rest
  drop (2 * count)
  return (← get).rest

/-- How many characters of blanks and of a comment there are. -/
def blanks : List Char → Nat
  | ' ' :: rest => blanks rest + 1
  | '\t' :: rest => blanks rest + 1
  | '\\' :: '\n' :: rest => blanks rest + 2
  | '#' :: rest => (rest.takeWhile (· ≠ '\n')).length + 1
  | _ => 0

/-- Goes past blanks and a comment. -/
def skipBlanks : Reading Unit := do
  drop (blanks (← get).rest)

end Reading

/-- The kinds of token that commands are made of. -/
inductive ShellToken where
  | endOfFile
  | newline
  | redirection
  | word
  | operator (text : String)
  | reserved (text : String)
  deriving DecidableEq, Repr

def ShellToken.describe : ShellToken → String
  | .endOfFile => "end of file"
  | .newline => "newline"
  | .redirection => "redirection"
  | .word => "word"
  | .operator text => "\"" ++ text ++ "\""
  | .reserved text => "\"" ++ text ++ "\""

/-- The words that mean something where a command may begin. -/
def reservedWords : List String :=
  ["!", "case", "do", "done", "elif", "else", "esac", "fi", "for", "if", "in", "then", "until",
    "while", "\x7b", "\x7d"]

def ShellToken.endsList : ShellToken → Bool
  | .endOfFile => true
  | .operator text => text ∈ [")", ";;"]
  | .reserved text => text ∈ ["do", "done", "elif", "else", "esac", "fi", "then", "\x7d"]
  | _ => false

def endsWord (c : Char) : Bool :=
  c ∈ [' ', '\t', '\n', ';', '&', '|', '<', '>', '(', ')']

/-- The token that characters start with; a reserved word counts as one if `reserving` says so. -/
def shellToken (reserving : Bool) (chars : List Char) : ShellToken :=
  match chars with
  | [] => .endOfFile
  | '\n' :: _ => .newline
  | '&' :: '&' :: _ => .operator "&&"
  | '&' :: _ => .operator "&"
  | '|' :: '|' :: _ => .operator "||"
  | '|' :: _ => .operator "|"
  | ';' :: ';' :: _ => .operator ";;"
  | ';' :: _ => .operator ";"
  | '(' :: _ => .operator "("
  | ')' :: _ => .operator ")"
  | '<' :: _ => .redirection
  | '>' :: _ => .redirection
  | c :: rest =>
      let redirects :=
        match rest with
        | '<' :: _ => c.isDigit
        | '>' :: _ => c.isDigit
        | _ => false
      let text := String.ofList (chars.takeWhile (!endsWord ·))
      if redirects then .redirection
      else if reserving && text ∈ reservedWords then .reserved text
      else .word

namespace Reading

def peek (reserving : Bool) : Reading ShellToken := do
  skipBlanks
  return shellToken reserving (← get).rest

/-- Gives up before the next token. A newline counts as read. -/
def unexpected {α : Type} (reserving : Bool) (expected : String) : Reading α := do
  let token ← peek reserving
  if token = .newline then drop 1
  fail ("Syntax error: " ++ token.describe ++ " unexpected"
    ++ (if expected.isEmpty then "" else " (expecting " ++ expected ++ ")"))

/-- Goes past newlines and what stands between them. -/
def skipNewlines (fuel : Nat) : Reading Unit := do
  match fuel with
  | 0 => return
  | fuel + 1 =>
      if (← peek false) = .newline then
        drop 1
        skipNewlines fuel

def expectOperator (text : String) : Reading Unit := do
  if (← peek true) = .operator text then drop text.length
  else unexpected true ("\"" ++ text ++ "\"")

def expectReserved (text : String) : Reading Unit := do
  if (← peek true) = .reserved text then drop text.length
  else unexpected true ("\"" ++ text ++ "\"")

/-- Reads other characters with a reader, from a line on. -/
def within {α : Type} (chars : List Char) (line : Nat) (reading : Reading α) : Reading α := do
  let (result, _) ← StateT.lift (reading.run { rest := chars, line })
  return result

end Reading

/-- Where a word is read: by itself, inside double quotes, in braces outside or inside double
quotes, in a document, or in an arithmetic expression with this many open parentheses. -/
inductive WordContext where
  | bare
  | double
  | braces
  | doubleBraces
  | document
  | expression (depth : Nat)
  deriving DecidableEq, Repr

def WordContext.isQuoted : WordContext → Bool
  | .bare => false
  | .braces => false
  | _ => true

/-- What a backslash before a character stands for. -/
def WordContext.escaped (context : WordContext) (c : Char) : String :=
  let special :=
    match context with
    | .bare => true
    | .braces => true
    | .double => c ∈ ['$', '`', '"', '\\']
    | .doubleBraces => c ∈ ['$', '`', '"', '\\', '\x7d']
    | .document => c ∈ ['$', '`', '\\']
    | .expression _ => c ∈ ['$', '`', '"', '\\']
  if special then c.toString else "\\" ++ c.toString

/-- The text between single quotes and how many characters it takes, or nothing if it has no end. -/
def singleQuoted? (chars : List Char) : Option (String × Nat) :=
  let text := chars.takeWhile (· ≠ '\'')
  if text.length < chars.length then some (String.ofList text, text.length + 1) else none

/-- The commands between back quotes and what comes after them, or nothing if they have no end.
Inside, a backslash goes away before a character that `special` names. -/
def backQuoted? (special : List Char) : List Char → Option (List Char × Nat)
  | [] => none
  | '`' :: _ => some ([], 1)
  | ['\\'] => none
  | '\\' :: c :: rest =>
      (backQuoted? special rest).map fun (text, used) =>
        (if c ∈ special then c :: text else '\\' :: c :: text, used + 2)
  | c :: rest => (backQuoted? special rest).map fun (text, used) => (c :: text, used + 1)

/-- A delimiter as it is written, and whether any of it is quoted. -/
def delimiter : List Char → List Char × Bool
  | [] => ([], false)
  | '\'' :: rest => ((delimiter rest).1, true)
  | '"' :: rest => ((delimiter rest).1, true)
  | ['\\'] => ([], true)
  | '\\' :: c :: rest => (c :: (delimiter rest).1, true)
  | c :: rest =>
      let (text, quoted) := delimiter rest
      (c :: text, quoted)

/-- The lines of a document up to its delimiter, and the lines after it. -/
def splitDocument (strip : Bool) (mark : List Char) :
    List (List Char) → List (List Char) × List (List Char)
  | [] => ([], [])
  | line :: rest =>
      let line := if strip then line.dropWhile (· == '\t') else line
      if line = mark then ([], rest)
      else
        let (body, rest) := splitDocument strip mark rest
        (line :: body, rest)

/-- The name or other parameter that characters start with. In braces a number may have several
digits. -/
def paramName (braced : Bool) (chars : List Char) : String :=
  match chars with
  | [] => ""
  | c :: _ =>
      if isNameStart c then String.ofList (chars.takeWhile isNameChar)
      else if c.isDigit && braced then String.ofList (chars.takeWhile Char.isDigit)
      else if isSpecialParam c then c.toString
      else ""

/-- The modifier that characters after a parameter start with, how many characters it takes, and
whether quotes in the word after it count even inside double quotes. -/
def modifier (chars : List Char) : Modifier × Nat :=
  let (colon, rest) :=
    match chars with
    | ':' :: rest => (true, rest)
    | rest => (false, rest)
  let used := if colon then 2 else 1
  match colon, rest with
  | false, '\x7d' :: _ => (.plain, 0)
  | _, '-' :: _ => (.useDefault colon, used)
  | _, '=' :: _ => (.assignDefault colon, used)
  | _, '?' :: _ => (.require colon, used)
  | _, '+' :: _ => (.alternative colon, used)
  | false, '#' :: '#' :: _ => (.cutFront true, 2)
  | false, '#' :: _ => (.cutFront false, 1)
  | false, '%' :: '%' :: _ => (.cutBack true, 2)
  | false, '%' :: _ => (.cutBack false, 1)
  | _, _ => (.bad, 0)

/-- Whether a modifier takes a pattern. -/
def Modifier.isCut : Modifier → Bool
  | .cutFront _ => true
  | .cutBack _ => true
  | _ => false

/-- Adds text to parts that stand last one first. -/
def addText (quoted : Bool) (text : String) : List Piece → List Piece
  | .text before start :: pieces =>
      if before = quoted then .text quoted (start ++ text) :: pieces
      else .text quoted text :: .text before start :: pieces
  | pieces => .text quoted text :: pieces

/-- The descriptor that a redirection without a number is about. -/
def usualDescriptor (c : Char) : Nat :=
  if c = '<' then 0 else 1

/-- The name that a word assigns to, if it is an assignment. -/
def assignedName? (chars : List Char) : Option String :=
  let name := String.ofList (chars.takeWhile isNameChar)
  if isName name && (chars.drop name.length).head? = some '=' then some name else none

namespace Reading

mutual

/-- The parts of a word, after those that stand last one first. -/
def pieces (fuel : Nat) (context : WordContext) (done : List Piece) : Reading (List Piece) := do
  match fuel with
  | 0 => fail "Syntax error: word too long"
  | fuel + 1 =>
      let quoted := context.isQuoted
      match ← ahead, context with
      | [], .bare => return done.reverse
      | [], .document => return done.reverse
      | [], .double => fail "Syntax error: Unterminated quoted string"
      | [], .doubleBraces => fail "Syntax error: Unterminated quoted string"
      | [], .expression _ => fail "Syntax error: Missing '))'"
      | [], _ => fail "Syntax error: Missing '\x7d'"
      | '"' :: _, .double => do
          drop 1
          return done.reverse
      | '"' :: _, .doubleBraces => do
          drop 1
          pieces fuel context (addText true "" done)
      | '"' :: _, .document => do
          drop 1
          pieces fuel context (addText true "\"" done)
      | '"' :: _, .expression _ => do
          drop 1
          pieces fuel context done
      | '"' :: _, _ => do
          drop 1
          let inner ← pieces fuel .double [.text true ""]
          let inner :=
            match inner with
            | [.text _ "", .param true "@" .plain []] => inner.tail
            | inner => inner
          pieces fuel context (inner.reverse ++ done)
      | '\x7d' :: _, .braces => do
          drop 1
          return done.reverse
      | '\x7d' :: _, .doubleBraces => do
          drop 1
          return done.reverse
      | ')' :: ')' :: _, .expression 0 => do
          drop 2
          return done.reverse
      | ')' :: _, .expression depth => do
          drop 1
          pieces fuel (.expression (depth - 1)) (addText true ")" done)
      | '(' :: _, .expression depth => do
          drop 1
          pieces fuel (.expression (depth + 1)) (addText true "(" done)
      | '\\' :: rest, _ =>
          match rest with
          | [] => do
              drop 1
              pieces fuel context (addText true "\\" done)
          | c :: _ => do
              drop 2
              pieces fuel context (addText true (context.escaped c) done)
      | '`' :: rest, _ =>
          let special := if quoted then ['`', '$', '\\', '"'] else ['`', '$', '\\']
          match backQuoted? special rest with
          | none => failAtEnd "Syntax error: EOF in backquote substitution"
          | some (inner, used) => do
              let commands ← within inner 1 (commandList fuel true)
              drop (used + 1)
              pieces fuel context (.output quoted commands :: done)
      | '$' :: _, _ => do
          drop 1
          match ← dollar fuel quoted with
          | some piece => pieces fuel context (piece :: done)
          | none => pieces fuel context (addText quoted "$" done)
      | c :: rest, _ =>
          if c = '\'' && !quoted then
            match singleQuoted? rest with
            | none => failAtEnd "Syntax error: Unterminated quoted string"
            | some (text, used) => do
                drop (used + 1)
                pieces fuel context (addText true text done)
          else if context = .bare && endsWord c then return done.reverse
          else do
            drop 1
            pieces fuel context (addText quoted c.toString done)

/-- What a dollar sign stands for, if it does not stand for itself. -/
def dollar (fuel : Nat) (quoted : Bool) : Reading (Option Piece) := do
  match fuel with
  | 0 => fail "Syntax error: word too long"
  | fuel + 1 =>
      match ← ahead with
      | '(' :: '(' :: _ => do
          drop 2
          return some (.arithmetic quoted (← pieces fuel (.expression 0) []))
      | '(' :: _ => do
          drop 1
          let commands ← commandList fuel true
          expectOperator ")"
          return some (.output quoted commands)
      | '\x7b' :: _ => do
          drop 1
          return some (← braced fuel quoted)
      | chars =>
          let name := paramName false chars
          if name.isEmpty then return none
          else do
            drop name.length
            return some (.param quoted name .plain [])

/-- A parameter in braces, of which the opening brace has been read. -/
def braced (fuel : Nat) (quoted : Bool) : Reading Piece := do
  match fuel with
  | 0 => fail "Syntax error: word too long"
  | fuel + 1 =>
      let inside := if quoted then .doubleBraces else .braces
      let chars ← ahead
      let counted :=
        match chars with
        | '#' :: rest =>
            let name := paramName true rest
            if name.isEmpty then none
            else if (rest.drop name.length).head? = some '\x7d' then some name
            else if rest.head?.any isNameChar then some ""
            else none
        | _ => none
      match counted with
      | some name =>
          drop 1
          if name.isEmpty then
            let _ ← pieces fuel inside []
            return .param quoted "" .bad []
          drop (name.length + 1)
          return .param quoted name .length []
      | none =>
          let name := paramName true chars
          drop name.length
          if (← ahead).head? = some '\n' then
            modify fun reader => { reader with line := reader.line - 1 }
          let (modifier, used) := modifier (← ahead)
          drop used
          let context :=
            if modifier.isCut then .braces
            else inside
          let word ← pieces fuel context []
          if name.isEmpty then return .param quoted "" .bad []
          return .param quoted name modifier word

/-- A redirection; that one stands here is known. -/
def redirect (fuel : Nat) : Reading Redirect := do
  match fuel with
  | 0 => fail "Syntax error: command too long"
  | fuel + 1 =>
      let chars := (← get).rest
      let number := (chars.takeWhile Char.isDigit)
      let chars := chars.drop number.length
      let given := (String.ofList number).toNat?
      let descriptor := given.getD (usualDescriptor (chars.headD '>'))
      drop number.length
      match chars with
      | '<' :: '<' :: rest => do
          let strip := rest.head? = some '-'
          drop (if strip then 3 else 2)
          document fuel descriptor strip
      | '<' :: '&' :: _ => do
          drop 2
          return .duplicate descriptor (← target fuel)
      | '>' :: '&' :: _ => do
          drop 2
          return .duplicate descriptor (← target fuel)
      | '<' :: '>' :: _ => do
          drop 2
          return .file descriptor .update (← target fuel)
      | '>' :: '>' :: _ => do
          drop 2
          return .file descriptor .append (← target fuel)
      | '>' :: '|' :: _ => do
          drop 2
          return .file descriptor .overwrite (← target fuel)
      | '>' :: _ => do
          drop 1
          return .file descriptor .overwrite (← target fuel)
      | _ => do
          drop 1
          return .file descriptor .input (← target fuel)

def target (fuel : Nat) : Reading ShellWord := do
  match fuel with
  | 0 => fail "Syntax error: command too long"
  | fuel + 1 =>
      if (← peek false) = .word then pieces fuel .bare []
      else unexpected false ""

/-- A document that starts on the next line. Its lines are taken out of the text. -/
def document (fuel : Nat) (descriptor : Nat) (strip : Bool) : Reading Redirect := do
  match fuel with
  | 0 => fail "Syntax error: command too long"
  | fuel + 1 =>
      if (← peek false) ≠ .word then unexpected false ""
      else
        let raw := (← get).rest.takeWhile (!endsWord ·)
        drop raw.length
        let (mark, quoted) := delimiter raw
        let reader ← get
        let before := reader.rest.takeWhile (· ≠ '\n')
        let after := reader.rest.drop (before.length + 1)
        let lines := after.splitOn '\n'
        let (body, rest) := splitDocument strip mark lines
        let text := body.flatMap (· ++ ['\n'])
        let text := if rest.isEmpty && body.length = lines.length then text.dropLast else text
        set { reader with
          rest := before ++ '\n' :: ['\n'].intercalate rest
          taken := reader.taken + (lines.length - rest.length) }
        if quoted then return .document descriptor [.text true (String.ofList text)]
        else
          let line := reader.line + reader.taken + 1
          return .document descriptor (← within text line (pieces fuel .document []))

def redirects (fuel : Nat) : Reading (List Redirect) := do
  match fuel with
  | 0 => fail "Syntax error: command too long"
  | fuel + 1 =>
      if (← peek false) = .redirection then
        let first ← redirect fuel
        return first :: (← redirects fuel)
      else return []

def words (fuel : Nat) : Reading (List ShellWord) := do
  match fuel with
  | 0 => fail "Syntax error: command too long"
  | fuel + 1 =>
      if (← peek false) = .word then
        let first ← pieces fuel .bare []
        return first :: (← words fuel)
      else return []

/-- A simple command or the definition of a function, given what has been read of it. -/
def simple (fuel : Nat) (line : Nat) (assignments : List (String × ShellWord))
    (words : List ShellWord) (redirects : List Redirect) : Reading Command := do
  match fuel with
  | 0 => fail "Syntax error: command too long"
  | fuel + 1 =>
      match ← peek false with
      | .word =>
          let chars := (← get).rest
          match if words.isEmpty then assignedName? chars else none with
          | some name =>
              drop (name.length + 1)
              let value ← pieces fuel .bare []
              simple fuel line (assignments ++ [(name, value)]) words redirects
          | none =>
              let word ← pieces fuel .bare []
              simple fuel line assignments (words ++ [word]) redirects
      | .redirection =>
          let one ← redirect fuel
          simple fuel line assignments words (redirects ++ [one])
      | .operator "(" =>
          if words.length = 1 && assignments.isEmpty && redirects.isEmpty then
            drop 1
            expectOperator ")"
            let name :=
              match words with
              | [[.text false text]] => text
              | _ => ""
            if !isName name || name ∈ specialCommands then fail "Syntax error: Bad function name"
            skipNewlines (← get).rest.length
            let line := (← get).line
            return .define line name (← command fuel)
          else return .simple line assignments words redirects
      | _ => return .simple line assignments words redirects

def command (fuel : Nat) : Reading Command := do
  match fuel with
  | 0 => fail "Syntax error: command too long"
  | fuel + 1 =>
      let token ← peek true
      let line := (← get).line
      match token with
      | .reserved "if" =>
          drop 2
          let body ← branches fuel
          expectReserved "fi"
          withRedirects fuel line body
      | .reserved "while" =>
          drop 5
          let test ← commandList fuel false
          expectReserved "do"
          let body ← commandList fuel false
          expectReserved "done"
          withRedirects fuel line (.loop true (.sequence test) (.sequence body))
      | .reserved "until" =>
          drop 5
          let test ← commandList fuel false
          expectReserved "do"
          let body ← commandList fuel false
          expectReserved "done"
          withRedirects fuel line (.loop false (.sequence test) (.sequence body))
      | .reserved "for" =>
          drop 3
          skipBlanks
          let name := String.ofList ((← get).rest.takeWhile (!endsWord ·))
          if !isName name then
            if (← peek false) = .newline then drop 1
            fail "Syntax error: Bad for loop variable"
          drop name.length
          skipNewlines (← get).rest.length
          let words ←
            if (← peek true) = .reserved "in" then do
              drop 2
              let list ← words fuel
              match ← peek false with
              | .newline => drop 1
              | .operator ";" => drop 1
              | _ => unexpected false ""
              pure (some list)
            else do
              if (← peek true) = .operator ";" then drop 1
              pure none
          skipNewlines (← get).rest.length
          expectReserved "do"
          let body ← commandList fuel false
          expectReserved "done"
          withRedirects fuel line (.forEach line name words (.sequence body))
      | .reserved "case" =>
          drop 4
          if (← peek false) ≠ .word then unexpected false "word"
          let subject ← pieces fuel .bare []
          skipNewlines (← get).rest.length
          expectReserved "in"
          let list ← clauses fuel
          withRedirects fuel line (.choose line subject list)
      | .operator "(" =>
          drop 1
          let body ← commandList fuel false
          expectOperator ")"
          return .subshell line (.sequence body) (← redirects fuel)
      | .reserved "\x7b" =>
          drop 1
          let body ← commandList fuel false
          expectReserved "\x7d"
          withRedirects fuel line (.sequence body)
      | .word => simple fuel line [] [] []
      | .redirection => simple fuel line [] [] []
      | _ => unexpected true ""

def withRedirects (fuel : Nat) (line : Nat) (body : Command) : Reading Command := do
  match fuel with
  | 0 => fail "Syntax error: command too long"
  | fuel + 1 =>
      match ← redirects fuel with
      | [] => return body
      | list => return .redirected line body list

/-- A condition with its consequence, and the branches after it. -/
def branches (fuel : Nat) : Reading Command := do
  match fuel with
  | 0 => fail "Syntax error: command too long"
  | fuel + 1 =>
      let test ← commandList fuel false
      expectReserved "then"
      let consequence ← commandList fuel false
      match ← peek true with
      | .reserved "elif" =>
          drop 4
          let rest ← branches fuel
          return .conditional (.sequence test) (.sequence consequence) (some rest)
      | .reserved "else" =>
          drop 4
          let rest ← commandList fuel false
          return .conditional (.sequence test) (.sequence consequence) (some (.sequence rest))
      | _ => return .conditional (.sequence test) (.sequence consequence) none

/-- The clauses of a choice up to its end. -/
def clauses (fuel : Nat) : Reading (List (List ShellWord × Command)) := do
  match fuel with
  | 0 => fail "Syntax error: command too long"
  | fuel + 1 =>
      skipNewlines (← get).rest.length
      if (← peek true) = .reserved "esac" then
        drop 4
        return []
      if (← peek true) = .operator "(" then drop 1
      let patterns ← patterns fuel
      expectOperator ")"
      let body ← commandList fuel true
      skipNewlines (← get).rest.length
      let clause := (patterns, Command.sequence body)
      match ← peek true with
      | .reserved "esac" =>
          drop 4
          return [clause]
      | .operator ";;" =>
          drop 2
          return clause :: (← clauses fuel)
      | _ => unexpected true "\";;\""

def patterns (fuel : Nat) : Reading (List ShellWord) := do
  match fuel with
  | 0 => fail "Syntax error: command too long"
  | fuel + 1 =>
      if (← peek false) ≠ .word then unexpected true "word"
      let first ← pieces fuel .bare []
      if (← peek false) = .operator "|" then
        drop 1
        return first :: (← patterns fuel)
      return [first]

def pipeline (fuel : Nat) : Reading Command := do
  match fuel with
  | 0 => fail "Syntax error: command too long"
  | fuel + 1 =>
      if (← peek true) = .reserved "!" then
        drop 1
        return .negated (← stages fuel)
      stages fuel

def stages (fuel : Nat) : Reading Command := do
  match fuel with
  | 0 => fail "Syntax error: command too long"
  | fuel + 1 =>
      let first ← command fuel
      match ← moreStages fuel with
      | [] => return first
      | rest => return .pipeline (first :: rest)

def moreStages (fuel : Nat) : Reading (List Command) := do
  match fuel with
  | 0 => fail "Syntax error: command too long"
  | fuel + 1 =>
      if (← peek true) = .operator "|" then
        drop 1
        skipNewlines (← get).rest.length
        let next ← command fuel
        return next :: (← moreStages fuel)
      return []

/-- Pipelines joined to what has been read by their success or failure. -/
def joinedTo (fuel : Nat) (left : Command) : Reading Command := do
  match fuel with
  | 0 => fail "Syntax error: command too long"
  | fuel + 1 =>
      match ← peek true with
      | .operator "&&" =>
          drop 2
          skipNewlines (← get).rest.length
          let right ← pipeline fuel
          joinedTo fuel (.both left right)
      | .operator "||" =>
          drop 2
          skipNewlines (← get).rest.length
          let right ← pipeline fuel
          joinedTo fuel (.either left right)
      | _ => return left

/-- A list of commands inside another command. It may have none only if `mayBeEmpty` says so. -/
def commandList (fuel : Nat) (mayBeEmpty : Bool) : Reading (List Command) := do
  match fuel with
  | 0 => fail "Syntax error: command too long"
  | fuel + 1 =>
      skipNewlines (← get).rest.length
      let token ← peek true
      if token = .endOfFile || (mayBeEmpty && token.endsList) then return []
      let first ← joinedTo fuel (← pipeline fuel)
      match ← peek true with
      | .operator "&" =>
          drop 1
          return .background first :: (← commandList fuel true)
      | .operator ";" =>
          drop 1
          return first :: (← commandList fuel true)
      | .newline => return first :: (← commandList fuel true)
      | _ => return [first]

def commandLine (fuel : Nat) : Reading (List Command) := do
  match fuel with
  | 0 => fail "Syntax error: command too long"
  | fuel + 1 =>
      match ← peek true with
      | .endOfFile => return []
      | .newline =>
          drop 1
          return []
      | _ =>
          let first ← joinedTo fuel (← pipeline fuel)
          match ← peek true with
          | .operator "&" =>
              drop 1
              return .background first :: (← commandLine fuel)
          | .operator ";" =>
              drop 1
              return first :: (← commandLine fuel)
          | .newline => return first :: (← commandLine fuel)
          | .endOfFile => return [first]
          | _ => unexpected true ""

end

end Reading

/-- Reads lines as long as there are any. -/
def scriptFrom (fuel : Nat) (reader : Reader) : Script :=
  match fuel with
  | 0 => { commands := [] }
  | fuel + 1 =>
      match (Reading.commandLine (16 * reader.rest.length + 64)).run reader with
      | .error fault => { commands := [], fault := some fault }
      | .ok (commands, next) =>
          if next.rest.isEmpty then { commands := [(next.line, .sequence commands)] }
          else
            let script := scriptFrom fuel next
            { script with commands := (next.line, .sequence commands) :: script.commands }

def Script.ofText (text : String) (line : Nat) : Script :=
  scriptFrom (text.length + 1) { rest := text.toList, line }

end StraightLine.Sandbox
