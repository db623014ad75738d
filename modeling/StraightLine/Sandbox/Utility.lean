import StraightLine.Sandbox.FileTree
import StraightLine.Text.Utf8

/-! How the programs that every machine has are run: what they are given and what they do. Text is
text of octets. -/

namespace StraightLine.Sandbox

/-- What a program that has run changed, wrote and returned, and whether it took what there was to
read. -/
structure Effect where
  tree : FileTree
  status : Nat := 0
  out : String := ""
  err : String := ""
  readsInput : Bool := false

/-- Where and how a program is run: the files, the working directory, the name it is called by, what
it can read, and whether that is a file. -/
structure Setting where
  tree : FileTree
  directory : Location
  self : String
  input : Except OsError String := .ok ""
  inputIsFile : Bool := false

/-- Whether a character stands for itself in a printed name. -/
def isPrintable (c : Char) : Bool :=
  32 ≤ c.toNat && c.toNat < 127

/-- Whether a name with this character, not at its front, can stand in double quotes and mean the
same to a shell. -/
def isPlainInQuotes (c : Char) : Bool :=
  c.isAlphanum || c ∈ ['%', '+', ',', '-', '.', '/', ':', ']', '_', ' ', '\'', '@']

/-- The letter by which a control character is written after a backslash. -/
def controlLetter? (c : Char) : Option Char :=
  match c.toNat with
  | 7 => some 'a'
  | 8 => some 'b'
  | 9 => some 't'
  | 10 => some 'n'
  | 11 => some 'v'
  | 12 => some 'f'
  | 13 => some 'r'
  | _ => none

/-- The characters of a name between single quotes. Those that cannot be shown are written with
backslashes in a part of their own; `escaping` says that such a part is open. -/
def quotedChars (escaping : Bool) : List Char → List Char
  | [] => []
  | c :: rest =>
      if isPrintable c then
        let before := if escaping then ['\'', '\''] else []
        let shown := if c = '\'' then ['\'', '\\', '\'', '\''] else [c]
        before ++ shown ++ quotedChars false rest
      else
        let before := if escaping then [] else ['\'', '$', '\'']
        let shown :=
          match controlLetter? c with
          | some letter => ['\\', letter]
          | none =>
              let digit := fun n => Char.ofNat ('0'.toNat + n % 8)
              ['\\', digit (c.toNat / 64), digit (c.toNat / 8), digit c.toNat]
        before ++ shown ++ quotedChars true rest

/-- A name in quotes, so that a shell reads it back. -/
def quotedName (name : String) : String :=
  let chars := name.toList
  let front := chars.head?.all fun c => isPlainInQuotes c || c ∈ ['#', '~']
  if '\'' ∈ chars ∧ front ∧ chars.tail.all isPlainInQuotes then "\"" ++ name ++ "\""
  else "'" ++ String.ofList (quotedChars false chars) ++ "'"

/-- Whether a name has to be quoted for a shell to read it back. -/
def needsQuotes (name : String) : Bool :=
  let chars := name.toList
  let marks := "?\\ '!\"$&()*;<=>[^`|".toList
  chars.isEmpty || chars.any (fun c => !isPrintable c || c ∈ marks)
    || chars.head?.any (· ∈ ['#', '~']) || chars ∈ [['\x7b'], ['\x7d']]

/-- A name as it is, in quotes only where a shell needs them. -/
def shownName (name : String) : String :=
  if needsQuotes name then quotedName name else name

namespace Setting

/-- The effect of a program that changes nothing. -/
def leave (setting : Setting) (status : Nat) (out err : String) : Effect :=
  { tree := setting.tree, status, out, err }

/-- A complaint in the usual form, the name of the program first. -/
def complaint (setting : Setting) (text : String) : String :=
  setting.self ++ ": " ++ text ++ "\n"

/-- A failure in the usual form. -/
def refuse (setting : Setting) (text : String) : Effect :=
  setting.leave 1 "" (setting.complaint text)

def advice (setting : Setting) : String :=
  "Try '" ++ setting.self ++ " --help' for more information.\n"

def misuse (setting : Setting) (text : String) : Effect :=
  setting.leave 1 "" (setting.complaint text ++ setting.advice)

def find (setting : Setting) (path : String) : Except OsError (Location × Entry) :=
  setting.tree.find setting.directory (Text.ofOctets path)

/-- What there is at a path of octets itself, be it a link. -/
def findSelf (setting : Setting) (path : String) : Except OsError (Location × Entry) :=
  setting.tree.findAs false setting.directory (Text.ofOctets path)

/-- Whether it is only because of a slash at its end that a path leads on from a link. -/
def entersLink (setting : Setting) (path : String) : Bool :=
  let named := (path.dropEndWhile '/').copy
  match setting.findSelf named with
  | .ok (_, .link _) => path ≠ named
  | _ => false

def read (setting : Setting) (path : String) : Except OsError String := do
  return Text.octetsOfBytes (← setting.tree.read setting.directory (Text.ofOctets path))

def isDirectory (setting : Setting) (path : String) : Bool :=
  match setting.find path with
  | .ok (_, .directory) => true
  | _ => false

end Setting

/-- Options by their letters, with the values of those that take one, and the other arguments. -/
structure Arguments where
  options : List (Char × String) := []
  operands : List String := []
  deriving DecidableEq, Repr

def Arguments.has (arguments : Arguments) (letter : Char) : Bool :=
  arguments.options.any (·.1 == letter)

/-- The value of an option, the last one if it is given more than once. -/
def Arguments.value? (arguments : Arguments) (letter : Char) : Option String :=
  (arguments.options.reverse.find? (·.1 == letter)).map (·.2)

/-- What options a program takes: letters without and with a value, and the long names of some. -/
structure OptionTable where
  flags : List Char := []
  valued : List Char := []
  named : List (String × Char) := []

/-- Reads letters after a dash. The rest of the word is the value of a letter that takes one. -/
def OptionTable.letters (table : OptionTable) (letters : List Char) :
    Except String (List (Char × String) × Option Char) :=
  match letters with
  | [] => .ok ([], none)
  | c :: rest =>
      if c ∈ table.valued then
        if rest.isEmpty then .ok ([], some c) else .ok ([(c, String.ofList rest)], none)
      else if c ∈ table.flags then
        (table.letters rest).map fun (found, pending) => ((c, "") :: found, pending)
      else .error ("invalid option -- '" ++ c.toString ++ "'")

/-- Reads arguments. Options may stand anywhere before a double dash. -/
def OptionTable.read (table : OptionTable) (pending : Option Char) :
    List String → Except String Arguments
  | [] =>
      match pending with
      | some c => .error ("option requires an argument -- '" ++ c.toString ++ "'")
      | none => .ok {}
  | word :: rest => do
      match pending, word.toList with
      | some c, _ =>
          let arguments ← table.read none rest
          return { arguments with options := (c, word) :: arguments.options }
      | none, ['-', '-'] => return { operands := rest }
      | none, '-' :: '-' :: _ =>
          let (name, value) :=
            match word.splitOn "=" with
            | name :: more => (name, "=".intercalate more)
            | [] => (word, "")
          match table.named.lookup name with
          | some c =>
              if c ∈ table.valued ∧ !word.contains '=' then table.read (some c) rest
              else
                let arguments ← table.read none rest
                return { arguments with options := (c, value) :: arguments.options }
          | none => throw ("unrecognized option '" ++ word ++ "'")
      | none, '-' :: c :: letters =>
          let (found, pending) ← table.letters (c :: letters)
          let arguments ← table.read pending rest
          return { arguments with options := found ++ arguments.options }
      | none, _ =>
          let arguments ← table.read none rest
          return { arguments with operands := word :: arguments.operands }

/-- Runs something on the arguments that a table reads, or complains. -/
def Setting.withArguments (setting : Setting) (table : OptionTable) (words : List String)
    (use : Arguments → Effect) : Effect :=
  match table.read none words with
  | .ok arguments => use arguments
  | .error reason => setting.misuse reason

/-- Does something for every operand in turn. What was written and the worst status add up. -/
def Setting.forEach (setting : Setting) (operands : List String)
    (use : Setting → String → Effect) : Effect :=
  operands.foldl
    (fun effect operand =>
      let next := use { setting with tree := effect.tree } operand
      { next with
        status := max effect.status next.status
        out := effect.out ++ next.out
        err := effect.err ++ next.err
        readsInput := effect.readsInput || next.readsInput })
    { tree := setting.tree }

def baseName (path : String) : String :=
  ((Path.names path).filter (· ≠ "")).getLastD (if path.isEmpty then "" else "/")

end StraightLine.Sandbox
