import StraightLine.Sandbox.Calculation
import StraightLine.Sandbox.Pattern
import StraightLine.Sandbox.Shell

/-! What words become: parameters, the output of commands and arithmetic are put in, the result is
cut into fields, and patterns are replaced by the names of the files they match. -/

namespace StraightLine.Sandbox

/-- What a word has become before it is cut: characters, quoted or not, of which some may be cut at;
a sign that there is a field even if it is empty; and an end of a field. -/
inductive Mark where
  | char (c : Char) (quoted splits : Bool)
  | kept
  | cut
  deriving DecidableEq, Repr

def marksOf (text : String) (quoted splits : Bool) : List Mark :=
  (if quoted then [.kept] else []) ++ text.toList.map fun c => .char c quoted splits

def patternOf (marks : List Mark) : Pattern :=
  marks.filterMap fun mark =>
    match mark with
    | .char c quoted _ => some ⟨c, quoted⟩
    | .cut => some ⟨' ', true⟩
    | .kept => none

def Pattern.text (pattern : Pattern) : String :=
  String.ofList (pattern.map (·.char))

/-- Fields under way: those that are done, last one first, the one at hand if there is one, and
whether the last one was ended by a blank. -/
structure Fields where
  done : List Pattern := []
  field : Option Pattern := none
  blank : Bool := false

namespace Fields

def finish (fields : Fields) (blank : Bool) : Fields :=
  match fields.field with
  | some field => { done := field.reverse :: fields.done, blank }
  | none => { fields with blank }

/-- Takes a mark in. A blank between fields counts once, any other separator every time. -/
def step (separators : List Char) (fields : Fields) (mark : Mark) : Fields :=
  match mark with
  | .kept => { fields with field := some (fields.field.getD []), blank := false }
  | .cut => fields.finish false
  | .char c quoted splits =>
      if splits && separators.contains c then
        if c ∈ [' ', '\t', '\n'] then
          match fields.field with
          | some _ => fields.finish true
          | none => fields
        else
          match fields.field with
          | some _ => fields.finish false
          | none =>
              if fields.blank then { fields with blank := false }
              else { fields with done := [] :: fields.done }
      else { fields with field := some (⟨c, quoted⟩ :: fields.field.getD []), blank := false }

end Fields

def fieldsOf (separators : List Char) (marks : List Mark) : List Pattern :=
  ((marks.foldl (Fields.step separators) {}).finish false).done.reverse

def patternParts (pattern : Pattern) : List Pattern :=
  pattern.splitOnP fun c => c.char == '/'

/-- The paths that parts of a pattern match, after what has been matched of the path. -/
def matchingPaths (tree : FileTree) (directory : Location) (done : String) :
    List Pattern → List String
  | [] => [done]
  | part :: rest =>
      let slash := if rest.isEmpty then "" else "/"
      let isThere := fun (path : String) =>
        (tree.findAs false directory (Text.ofOctets path)).toBool
      if part.isOpen then
        let place := if done.isEmpty then "." else done
        match tree.find directory (Text.ofOctets place) with
        | .ok (location, .directory) =>
            let hidden := part.head?.any (·.char == '.')
            let names := (tree.children location).map fun (name, _) => Text.octets name
            let names := (if hidden then [".", ".."] else []) ++ names
            let found := names.filter fun name =>
              (hidden || !name.startsWith ".") && part.covers name.toList
            (found.filter fun name => isThere (done ++ name ++ slash)).flatMap fun name =>
              matchingPaths tree directory (done ++ name ++ slash) rest
        | _ => []
      else
        let path := done ++ part.text ++ slash
        if rest.isEmpty then if isThere path then [path] else []
        else matchingPaths tree directory path rest

/-- The words that a field becomes. A pattern that matches no file stands for itself. -/
def matchedWords (shell : Shell) (field : Pattern) : List String :=
  if field.isOpen && !shell.has 'f' then
    let found := matchingPaths shell.world.tree shell.directory "" (patternParts field)
    if found.isEmpty then [field.text] else found.mergeSort fun left right => left ≤ right
  else [field.text]

def Shell.flags (shell : Shell) : String :=
  String.ofList ("ubaCEVxvsnmiIfe".toList.filter shell.has)

/-- The value of a parameter that is no list. -/
def Shell.param? (shell : Shell) (name : String) : Option String :=
  match name with
  | "#" => some (toString shell.args.length)
  | "?" => some (toString shell.status)
  | "$" => some (toString shell.id)
  | "!" => (shell.jobs.head?).map (·.1)
  | "-" => some shell.flags
  | "0" => some shell.self
  | "@" => some (" ".intercalate shell.args)
  | "*" =>
      let between :=
        match shell.separators with
        | c :: _ => c.toString
        | [] => ""
      some (between.intercalate shell.args)
  | name =>
      match name.toNat? with
      | some position => shell.args[position - 1]?
      | none => shell.value? name

/-- A word that starts with a tilde, with the home directory in its place. -/
def homeWord (shell : Shell) (word : ShellWord) : ShellWord :=
  match word, shell.value? "HOME" with
  | .text false text :: rest, some home =>
      match text.toList with
      | ['~'] => if rest.isEmpty then [.text true home] else word
      | '~' :: '/' :: path => .text true home :: .text false (String.ofList ('/' :: path)) :: rest
      | _ => word
  | _, _ => word

/-- The value of a variable with the home directory in place of every tilde at its front or after a
colon. `front` says whether the word starts a part. -/
def homeParts (shell : Shell) (front : Bool) : ShellWord → ShellWord
  | [] => []
  | .text false text :: rest =>
      let parts := text.splitOn ":"
      let home := (shell.value? "HOME").getD "~"
      let shown := parts.zipIdx.map fun (part, i) =>
        let closed := !rest.isEmpty && i + 1 = parts.length
        match part.toList with
        | ['~'] => if (front || i > 0) && !closed then home else part
        | '~' :: '/' :: _ => if front || i > 0 then home ++ (part.drop 1).copy else part
        | _ => part
      .text true (":".intercalate shown) :: homeParts shell (text.endsWith ":") rest
  | piece :: rest => piece :: homeParts shell false rest

/-- The output of commands without the newlines at its end. -/
def trimmedOutput (text : String) : String :=
  String.ofList ((text.toList.filter (· ≠ '\x00')).reverse.dropWhile (· == '\n')).reverse

namespace Act

/-- Arguments as marks, each a field of its own. -/
def listMarks (args : List String) (quoted splits : Bool) : List Mark :=
  match args with
  | [] => []
  | [arg] => marksOf arg quoted splits
  | arg :: rest => marksOf arg quoted splits ++ .cut :: listMarks rest quoted splits

/-- Gives up because of a parameter that has no value. -/
def missing {α : Type} (name text : String) : Act α :=
  refuse (name ++ ": " ++ text)

/-- The marks of a word. `substitute` gives the output of commands, and `splits` says whether what
is put in outside quotes may be cut. -/
def expand (substitute : List Command → Act String) (fuel : Nat) (splits : Bool) :
    ShellWord → Act (List Mark)
  | [] => return []
  | piece :: rest => do
      let first ←
        match fuel with
        | 0 => pure []
        | fuel + 1 =>
            match piece with
            | .text quoted text => pure (marksOf text quoted false)
            | .output quoted commands => do
                let text ← substitute commands
                pure (marksOf (trimmedOutput text) quoted (splits && !quoted))
            | .arithmetic quoted expression => do
                let inner ← expand substitute fuel false expression
                let shell ← get
                match calculate shell.value? (patternOf inner).text with
                | .error reason => refuse reason
                | .ok (n, assigned) => do
                    for (name, value) in assigned do
                      assign name (toString value)
                    pure (marksOf (toString n) quoted (splits && !quoted))
            | .param quoted name modifier word => do
                let shell ← get
                let isList := name = "@" ∨ name = "*"
                let value := shell.param? name
                let cut := splits && !quoted
                let shown := fun (text : String) => marksOf text quoted cut
                let present := fun (orEmpty : Bool) =>
                  match value with
                  | some text => !(orEmpty && text.isEmpty)
                  | none => false
                let plain :=
                  if name = "@" && quoted && splits then listMarks shell.args true false
                  else if isList && cut then listMarks shell.args false true
                  else shown (value.getD "")
                let checked := do
                  if value.isNone && !isList && shell.has 'u' then
                    missing name "parameter not set"
                match modifier with
                | .bad => refuse "Bad substitution"
                | .plain => do
                    checked
                    pure plain
                | .length => do
                    checked
                    pure (shown (toString (value.getD "").length))
                | .useDefault orEmpty =>
                    if present orEmpty then pure plain
                    else do
                      let inner ← expand substitute fuel splits word
                      pure (inner.map fun mark =>
                        match mark with
                        | .char c false _ => .char c false cut
                        | mark => mark)
                | .alternative orEmpty =>
                    if present orEmpty then do
                      let inner ← expand substitute fuel splits word
                      pure (inner.map fun mark =>
                        match mark with
                        | .char c false _ => .char c false cut
                        | mark => mark)
                    else pure (if quoted then [.kept] else [])
                | .assignDefault orEmpty =>
                    if present orEmpty then pure plain
                    else do
                      let inner ← expand substitute fuel false word
                      let text := (patternOf inner).text
                      if !isName name then refuse (name ++ ": bad variable name")
                      else do
                        assign name text
                        pure (shown text)
                | .require orEmpty =>
                    if present orEmpty then pure plain
                    else do
                      let inner ← expand substitute fuel false word
                      let text := (patternOf inner).text
                      if word.isEmpty then
                        missing name
                          (if orEmpty then "parameter not set or null" else "parameter not set")
                      else missing name text
                | .cutFront longest => do
                    checked
                    let inner ← expand substitute fuel false word
                    let text := (patternOf inner).cutFront longest (value.getD "").toList
                    pure (shown (String.ofList text))
                | .cutBack longest => do
                    checked
                    let inner ← expand substitute fuel false word
                    let text := (patternOf inner).cutBack longest (value.getD "").toList
                    pure (shown (String.ofList text))
      return first ++ (← expand substitute fuel splits rest)
  termination_by word => (fuel, word.length)

/-- How deep words may stand in words. -/
def wordDepth : Nat := 200

def expandFields (substitute : List Command → Act String) (word : ShellWord) :
    Act (List String) := do
  let marks ← expand substitute wordDepth true (homeWord (← get) word)
  let shell ← get
  return (fieldsOf shell.separators marks).flatMap (matchedWords shell)

def expandAll (substitute : List Command → Act String) : List ShellWord → Act (List String)
  | [] => return []
  | word :: rest => do
      let first ← expandFields substitute word
      return first ++ (← expandAll substitute rest)

def expandPattern (substitute : List Command → Act String) (word : ShellWord) : Act Pattern := do
  return patternOf (← expand substitute wordDepth false (homeWord (← get) word))

def expandText (substitute : List Command → Act String) (word : ShellWord) : Act String := do
  return (← expandPattern substitute word).text

/-- A word that becomes the value of a variable. -/
def expandValue (substitute : List Command → Act String) (word : ShellWord) : Act String := do
  return (patternOf (← expand substitute wordDepth false (homeParts (← get) true word))).text

end Act

end StraightLine.Sandbox
