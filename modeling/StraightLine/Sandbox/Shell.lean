import StraightLine.Host.Process
import StraightLine.Sandbox.Numeral
import StraightLine.Sandbox.World

/-! A shell at work: its variables, functions and options, where its descriptors lead, and what
keeps it from going on. Text is text of octets. -/

namespace StraightLine.Sandbox

/-- A variable. One without a value may still be exported or protected. -/
structure Variable where
  value : Option String := none
  exported : Bool := false
  readOnly : Bool := false
  deriving DecidableEq, Repr

/-- What keeps commands from being run for a while: a loop is left or begun anew, so many levels up,
or a function is left. -/
inductive Skip where
  | nothing
  | leave (levels : Nat)
  | next (levels : Nat)
  | back
  deriving DecidableEq, Repr

/-- What ends a shell before its script is over: a complaint, a command to end, or a signal. -/
inductive Raised where
  | error
  | ended
  | killed (signal : Nat)
  deriving DecidableEq, Repr

structure Shell where
  id : Nat
  world : World
  descriptors : Descriptors := .initial
  directory : Location
  workingPath : String
  self : String
  args : List String := []
  vars : List (String × Variable) := []
  functions : List (String × Command) := []
  options : List Char := []
  status : Nat := 0
  substituted : Nat := 0
  line : Nat := 1
  readLine : Nat := 1
  command : String := ""
  calls : Nat := 0
  loops : Nat := 0
  skip : Skip := .nothing
  saved : List (String × Option Variable) := []
  traps : List (Nat × String) := []
  arrived : List Nat := []
  jobs : List (String × Nat) := []
  optionPlace : Nat := 0
  mask : Nat := 18
  isChild : Bool := false

abbrev Act := ExceptT Raised (StateM Shell)

/-- The program by which a script is run. -/
abbrev Runner := Bool → Command → Act Nat

/-- The number that a shell sees of how a program ended. -/
def statusNumber : ExitStatus → Nat
  | .exited code => code
  | .killed signal => 128 + signal

namespace Shell

def has (shell : Shell) (option : Char) : Bool :=
  shell.options.contains option

def value? (shell : Shell) (name : String) : Option String :=
  (shell.vars.lookup name).bind (·.value)

def separators (shell : Shell) : List Char :=
  ((shell.value? "IFS").getD " \t\n").toList

/-- In which order variables are handed on: by a number from 0 to 38 that their names add up to. -/
def variableRank (name : String) : Nat :=
  let codes := name.toList.map Char.toNat
  codes.foldl (· + ·) (codes.headD 0 * 16) % 39

def environment (shell : Shell) : List (String × String) :=
  let vars := shell.vars.filterMap fun (name, var) =>
    if var.exported then var.value.map fun value => (name, value) else none
  vars.mergeSort fun left right => variableRank left.1 ≤ variableRank right.1

def putVariable (shell : Shell) (name : String) (var : Variable) : Shell :=
  if (shell.vars.lookup name).isSome then
    { shell with
      vars := shell.vars.map fun (other, old) => (other, if other = name then var else old) }
  else { shell with vars := shell.vars ++ [(name, var)] }

def dropVariable (shell : Shell) (name : String) : Shell :=
  { shell with vars := shell.vars.filter (·.1 ≠ name) }

/-- Brings a variable back to what it was. -/
def restore (shell : Shell) (name : String) (var : Option Variable) : Shell :=
  match var with
  | some var => shell.putVariable name var
  | none => shell.dropVariable name

/-- Goes on in the world that others have left. The working directory is the same one, wherever it
is now. -/
def inWorld (shell : Shell) (world : World) : Shell :=
  let shifts := world.tree.shifts.drop shell.world.tree.shifts.length
  { shell with world, directory := shell.directory.after shifts }

def write (shell : Shell) (descriptor : Nat) (text : String) : Shell :=
  match shell.descriptors.lookup descriptor with
  | some opened => { shell with world := shell.world.write opened text }
  | none => shell

end Shell

namespace Act

def put (descriptor : Nat) (text : String) : Act Unit :=
  modify (·.write descriptor text)

/-- Complains: the script's name, the line, the command if it is the shell's own, then the text. -/
def complain (text : String) : Act Unit := do
  let shell ← get
  let command := if shell.command.isEmpty then "" else shell.command ++ ": "
  put 2 (shell.self ++ ": " ++ toString shell.line ++ ": " ++ command ++ text ++ "\n")

/-- The path of the working directory without links. Where the directory has been removed there is
none, which is told. -/
def physicalPath : Act String := do
  let shell ← get
  if shell.directory.isGone then
    complain "getcwd() failed: No such file or directory"
    return ""
  return Text.octets shell.directory.path

def setStatus (status : Nat) : Act Unit :=
  modify ({ · with status })

/-- Complains and gives up. -/
def refuse {α : Type} (text : String) : Act α := do
  complain text
  setStatus 2
  throw .error

/-- Sets a variable, unless it is protected. -/
def assign (name value : String) : Act Unit := do
  let shell ← get
  let var := (shell.vars.lookup name).getD {}
  if var.readOnly then refuse (name ++ ": is read only")
  else
    set (shell.putVariable name
      { var with value := some value, exported := var.exported || shell.has 'a' })

/-- Complains about a text that should be a number. -/
def badNumber {α : Type} (text : String) : Act α :=
  refuse ("Illegal number: " ++ text)

/-- A word that has to be a number that is not negative. -/
def digits (word : String) : Act Nat :=
  match decimal? word with
  | some n => if 0 ≤ n ∧ n ≤ 2147483647 then return n.toNat else badNumber word
  | none => badNumber word

end Act

end StraightLine.Sandbox
