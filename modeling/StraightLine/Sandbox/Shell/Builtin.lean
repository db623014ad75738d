import StraightLine.Sandbox.Condition
import StraightLine.Sandbox.Printf
import StraightLine.Sandbox.Shell.Input
import StraightLine.Sandbox.Shell.Options
import StraightLine.Sandbox.Shell.Signal

/-! The commands that a shell runs itself and that run no others. Each takes its arguments and gives
its status; one that refuses has complained. -/

namespace StraightLine.Sandbox

def ownCommands : List String :=
  specialCommands
    ++ ["[", "alias", "bg", "cd", "chdir", "command", "echo", "false", "fg", "getopts", "hash",
      "jobs", "kill", "printf", "pwd", "read", "test", "true", "type", "ulimit", "umask",
      "unalias", "wait"]

/-- The words that the grammar of scripts keeps for itself. -/
def keywords : List String :=
  ["!", "case", "do", "done", "elif", "else", "esac", "fi", "for", "if", "in", "then", "until",
    "while", "\x7b", "\x7d"]

/-- An absolute path without dots, seen from a directory. -/
def plainPath (directory path : String) : String :=
  let start :=
    match (if Path.isAbsolute path then path else directory).toList with
    | ['/', '/'] => "//"
    | '/' :: '/' :: c :: _ => if c = '/' then "/" else "//"
    | _ => "/"
  let names := (if Path.isAbsolute path then [] else Path.names directory) ++ Path.names path
  let kept := names.foldl
    (fun kept name =>
      if name = "" ∨ name = "." then kept
      else if name = ".." then kept.dropLast
      else kept ++ [name])
    []
  start ++ "/".intercalate kept

/-- The paths at which a command without a slash is looked for. -/
def commandPaths (shell : Shell) (name : String) : List String :=
  match shell.value? "PATH" with
  | none => []
  | some text =>
      (text.splitOn ":").map fun directory =>
        if directory.isEmpty then name else directory ++ "/" ++ name

/-- The first place where a command without a slash is a file that may be run. -/
def commandPath? (shell : Shell) (name : String) : Option String :=
  (commandPaths shell name).find? fun path =>
    match shell.world.tree.find shell.directory (Text.ofOctets path) with
    | .ok (_, entry) => entry.isExecutable
    | .error _ => false

namespace Act

def changeDirectory (args : List String) : Act Nat := do
  let (found, words) ← letters ['L', 'P'] args
  let shell ← get
  let wanted := words.head?
  let target :=
    match wanted with
    | none => (shell.value? "HOME").getD ""
    | some "-" => (shell.value? "OLDPWD").getD ""
    | some path => path
  let asked := if target.isEmpty then "." else target
  let isDirectory := fun (path : String) =>
    match shell.world.tree.find shell.directory (Text.ofOctets path) with
    | .ok (_, .directory) => true
    | _ => false
  let bases :=
    if (Path.names target).head?.any (· ∈ [".", ".."]) ∨ Path.isAbsolute target then []
    else ((shell.value? "CDPATH").map (·.splitOn ":")).getD []
  let below := fun (base : String) => if base.isEmpty then asked else base ++ "/" ++ asked
  let base := (bases.find? fun base => isDirectory (below base)).getD ""
  let asked := below base
  let shows := wanted = some "-" ∨ !base.isEmpty
  let logical := plainPath shell.workingPath asked
  let physical := found.getLast? = some 'P'
    ∨ shell.workingPath.isEmpty ∧ !Path.isAbsolute asked
  let path := if physical then asked else logical
  match shell.world.tree.find shell.directory (Text.ofOctets path) with
  | .ok (place, .directory) =>
      set { shell with directory := place }
      let workingPath ← if physical then physicalPath else pure logical
      let handOn := fun (name value : String) (shell : Shell) =>
        shell.putVariable name
          { (shell.vars.lookup name).getD {} with value := some value, exported := true }
      modify fun now =>
        handOn "PWD" workingPath (handOn "OLDPWD" shell.workingPath { now with workingPath })
      if shows then out (workingPath ++ "\n") else return 0
  | _ => refuse ("can't cd to " ++ target)

def showDirectory (args : List String) : Act Nat := do
  let (found, _) ← letters ['L', 'P'] args
  if found.getLast? = some 'P' then out ((← physicalPath) ++ "\n")
  else out ((← get).workingPath ++ "\n")

def printFormatted (args : List String) : Act Nat := do
  let (_, words) ← letters [] args
  match words with
  | [] => refuse "usage: printf format [arg ...]"
  | format :: words =>
      let printing := printf format words
      for complaint in printing.complaints do complain complaint
      let status ← out printing.text
      match printing.fault with
      | some fault => refuse fault
      | none => return if printing.complaints.isEmpty then status else 1

def checkCondition (bracketed : Bool) (args : List String) : Act Nat := do
  if bracketed && args.getLast? ≠ some "]" then refuse "missing ]"
  let words := if bracketed then args.dropLast else args
  let shell ← get
  match ConditionSetting.holds ⟨shell.world.tree, shell.directory⟩ (words.length + 1) words with
  | .ok truth => return if truth then 0 else 1
  | .error reason => refuse reason

/-- Says what commands are: the shell's own, functions or files. -/
def describeCommand (brief : Bool) (name : String) : Act Nat := do
  let shell ← get
  let answer := fun (short long : String) =>
    out ((if brief then short else name ++ " is " ++ long) ++ "\n")
  let isFile := fun (path : String) =>
    match shell.world.tree.find shell.directory (Text.ofOctets path) with
    | .ok (_, entry) => entry.isExecutable
    | .error _ => false
  if keywords.contains name then answer name "a shell keyword"
  else if specialCommands.contains name then answer name "a special shell builtin"
  else if (shell.functions.lookup name).isSome then answer name "a shell function"
  else if ownCommands.contains name then answer name "a shell builtin"
  else
    match if name.contains '/' then if isFile name then some name else none
        else commandPath? shell name with
    | some path => answer path path
    | none => do
        if !brief then
          let _ ← out (name ++ ": not found\n")
        return 127

def describeCommands (args : List String) : Act Nat := do
  let mut status := 0
  for name in args do
    let found ← describeCommand false name
    status := max status found
  return status

/-- Waits for programs that were started before. They have all ended. -/
def wait (args : List String) : Act Nat := do
  let mut status := 0
  for word in args do
    let number ← digits word
    status := ((← get).jobs.lookup (toString number)).getD 127
  return status

/-- Shows or sets which rights new files do not get. -/
def mask (args : List String) : Act Nat := do
  let (found, words) ← letters ['S'] args
  let shell ← get
  match words with
  | [] =>
      let digit := fun (n : Nat) => Char.ofNat ('0'.toNat + n % 8)
      let rights := fun (n : Nat) =>
        String.ofList ((['r', 'w', 'x'].zip [4, 2, 1]).filterMap fun (c, bit) =>
          if n / bit % 2 = 0 then some c else none)
      let n := shell.mask
      if found.isEmpty then
        out (String.ofList ['0', digit (n / 64), digit (n / 8), digit n] ++ "\n")
      else
        out ("u=" ++ rights (n / 64) ++ ",g=" ++ rights (n / 8) ++ ",o=" ++ rights n ++ "\n")
  | word :: _ =>
      if word.toList.all fun c => '0' ≤ c && c ≤ '7' then
        set { shell with mask := digitsValue 8 word.toList }
        return 0
      else if word.toList.head?.any Char.isDigit then badNumber word
      else return 0

/-- Leaves loops, or begins them anew. -/
def leaveLoops (skip : Nat → Skip) (args : List String) : Act Nat := do
  let levels ←
    match args with
    | [] => pure 1
    | word :: _ => do
        let n ← digits word
        if n = 0 then badNumber word else pure n
  let shell ← get
  let levels := min levels shell.loops
  if levels > 0 then set { shell with skip := skip levels }
  return 0

def leave (args : List String) : Act Nat := do
  match args with
  | [] => pure ()
  | word :: _ => do
      let status ← digits word
      setStatus status
  throw .ended

/-- Leaves the function at hand, or the script. -/
def goBack (args : List String) : Act Nat := do
  let status ←
    match args with
    | [] => pure (← get).status
    | word :: _ => digits word
  modify ({ · with skip := .back })
  return status

def shift (args : List String) : Act Nat := do
  let count ←
    match args with
    | [] => pure 1
    | word :: _ => digits word
  let shell ← get
  if shell.args.length < count then refuse "can't shift that many"
  set { shell with args := shell.args.drop count, optionPlace := 0 }
  return 0

def findCommands (args : List String) : Act Nat := do
  let (_, words) ← letters ['r', 'v'] args
  let shell ← get
  let mut status := 0
  for word in words do
    let known := ownCommands.contains word || (shell.functions.lookup word).isSome
      || (commandPath? shell word).isSome
    if !known then
      complain (word ++ ": not found")
      status := 1
  return status

/-- The command of this name that a shell runs itself and that runs no others. -/
def ownCommand? (name : String) : Option (List String → Act Nat) :=
  match name with
  | ":" => some fun _ => return 0
  | "true" => some fun _ => return 0
  | "false" => some fun _ => return 1
  | "echo" => some fun args => out (echoText args)
  | "printf" => some printFormatted
  | "test" => some (checkCondition false)
  | "[" => some (checkCondition true)
  | "cd" => some changeDirectory
  | "chdir" => some changeDirectory
  | "pwd" => some showDirectory
  | "read" => some readLine
  | "export" =>
      some (marking "export " (fun var => { var with exported := true }) (·.exported))
  | "readonly" =>
      some (marking "readonly " (fun var => { var with readOnly := true }) (·.readOnly))
  | "unset" => some unset
  | "local" => some makeLocal
  | "set" => some setShell
  | "shift" => some shift
  | "exit" => some leave
  | "return" => some goBack
  | "break" => some (leaveLoops .leave)
  | "continue" => some (leaveLoops .next)
  | "kill" => some kill
  | "trap" => some trap
  | "type" => some describeCommands
  | "getopts" => some nextOption
  | "wait" => some wait
  | "umask" => some mask
  | "ulimit" => some fun _ => out "unlimited\n"
  | "hash" => some findCommands
  | "times" => some fun _ => out "0m0.000000s 0m0.000000s\n0m0.000000s 0m0.000000s\n"
  | "jobs" => some fun _ => return 0
  | "fg" => some fun _ => refuse "No current job"
  | "bg" => some fun _ => refuse "No current job"
  | "alias" => some fun _ => return 0
  | "unalias" => some fun args => do
      for word in args do put 2 ("unalias: " ++ word ++ " not found\n")
      return if args.isEmpty then 0 else 1
  | _ => none

end Act

end StraightLine.Sandbox
