import StraightLine.Sandbox.Shell.Expand

/-! Reading lines into variables. -/

namespace StraightLine.Sandbox

/-- The next field of a line and what comes after it. Quoted characters are part of a field whatever
they are. -/
def readField (separators : List Char) :
    List PatternChar → List PatternChar × List PatternChar
  | [] => ([], [])
  | c :: rest =>
      if !c.quoted && separators.contains c.char then ([], c :: rest)
      else
        let (field, left) := readField separators rest
        (c :: field, left)

/-- Whether a character is a separator that is also a blank. -/
def isBlankSeparator (separators : List Char) (c : PatternChar) : Bool :=
  !c.quoted && separators.contains c.char && c.char ∈ [' ', '\t', '\n']

/-- What is left of a line after the separators at its front: blanks, and at most one other. -/
def dropSeparators (separators : List Char) (line : List PatternChar) : List PatternChar :=
  let blank := isBlankSeparator separators
  match line.dropWhile blank with
  | c :: rest =>
      if !c.quoted && separators.contains c.char then rest.dropWhile blank else c :: rest
  | [] => []

/-- The values that so many variables get from a line. The last one gets what is left. -/
def readValues (separators : List Char) : Nat → List PatternChar → List String
  | 0, _ => []
  | 1, line =>
      let blank := isBlankSeparator separators
      let trimmed := (line.reverse.dropWhile blank).reverse
      let (field, left) := readField separators trimmed
      if (dropSeparators separators left).isEmpty then [Pattern.text field]
      else [Pattern.text trimmed]
  | count + 1, line =>
      let (field, left) := readField separators line
      Pattern.text field :: readValues separators count (dropSeparators separators left)

/-- A line of input: its characters, how many octets it took, and whether it had an end. Unless it
is raw, a backslash quotes the character after it and joins lines. -/
def inputLine (raw : Bool) : List Char → List PatternChar × Nat × Bool
  | [] => ([], 0, false)
  | '\n' :: _ => ([], 1, true)
  | '\\' :: c :: rest =>
      if raw then
        let (line, used, ended) := inputLine raw (c :: rest)
        (⟨'\\', false⟩ :: line, used + 1, ended)
      else
        let (line, used, ended) := inputLine raw rest
        (if c = '\n' then line else ⟨c, true⟩ :: line, used + 2, ended)
  | c :: rest =>
      let (line, used, ended) := inputLine raw rest
      (⟨c, false⟩ :: line, used + 1, ended)

namespace Act

/-- The options of reading a line: whether it is raw, and the names after them. What is to be shown
before a line is asked for is shown to no one. -/
def readOptions (raw : Bool) : List String → Act (Bool × List String)
  | [] => return (raw, [])
  | "--" :: rest => return (raw, rest)
  | "-r" :: rest => readOptions true rest
  | ["-p"] => refuse "No arg for -p option"
  | "-p" :: _ :: rest => readOptions raw rest
  | word :: rest =>
      match word.toList with
      | '-' :: c :: _ => refuse ("Illegal option -" ++ c.toString)
      | _ => return (raw, word :: rest)

def readLine (args : List String) : Act Nat := do
  let (raw, names) ← readOptions false args
  if names.isEmpty then refuse "arg count"
  let shell ← get
  let some opened := shell.descriptors.lookup 0 | do
    for name in names do assign name ""
    return 1
  let text := (shell.world.available opened).toOption.getD ""
  let (line, used, ended) := inputLine raw (text.toList)
  set { shell with world := shell.world.consume opened used }
  let line := line.filter (·.char ≠ '\x00')
  let separators := shell.separators
  let values := readValues separators names.length (line.dropWhile (isBlankSeparator separators))
  for (name, value) in names.zip values do
    if !isName name then refuse (name ++ ": bad variable name")
    assign name value
  return if ended then 0 else 1

end Act

end StraightLine.Sandbox
