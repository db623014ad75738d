import StraightLine.CommandLine.Run
import StraightLine.Sandbox.Shell.Run

/-! A machine as a value: files, environment and terminal. Commands run on it as on a real machine,
except that nothing outside the value is touched. Programs on it are shell scripts and the usual
utilities. -/

namespace StraightLine

structure Sandbox where
  tree : Sandbox.FileTree
  env : List (String × String) := []
  directory : Sandbox.Location := []
  events : List Event := []
  listening : Option LogFilter := none
  stdout : String := ""
  stderr : String := ""
  deriving DecidableEq, Repr

namespace Sandbox

/-- The files of a machine that holds only its utilities and a sink. -/
def bareTree : FileTree :=
  let utilities := Utility.named.flatMap fun (name, utility) =>
    [(["bin", name], Entry.utility utility), (["usr", "bin", name], .utility utility)]
  let others := [(["bin"], .directory), (["usr"], .directory), (["usr", "bin"], .directory),
    (["dev"], .directory), (["dev", "null"], .sink)]
  { entries := others ++ utilities }

def programDirectories (sandbox : Sandbox) : List String :=
  match sandbox.env.lookup "PATH" with
  | some text => text.splitOn ":"
  | none => ["/bin", "/usr/bin"]

def homeDirectory : String := "/root"

/-- A directory where programs are kept, with the home directory in the place of a tilde. -/
def atHome (directory : String) : String :=
  match Path.names directory with
  | "~" :: rest => "/".intercalate (homeDirectory :: rest)
  | _ => directory

/-- The first path to an executable file of this name in the directories where programs are kept. -/
def findProgram (sandbox : Sandbox) (name : String) : Option String :=
  let paths := sandbox.programDirectories.map fun directory => Path.join (atHome directory) name
  paths.find? fun path =>
    match sandbox.tree.find sandbox.directory path with
    | .ok (_, entry) => entry.isExecutable
    | .error _ => false

/-- The absolute path of what there is at a path, however long the path is. -/
def canonical (sandbox : Sandbox) (path : String) : Except OsError String := do
  let location ← sandbox.tree.resolve sandbox.directory true path
  if (sandbox.tree.get? location).isNone then throw .notFound
  return location.path

def readText (sandbox : Sandbox) (path : String) : Except OsError String := do
  match Text.exactText? (← sandbox.tree.read sandbox.directory path) with
  | some text => return text
  | none => throw .notText

def writeText (sandbox : Sandbox) (path text : String) : Except OsError Sandbox := do
  let location ← sandbox.tree.locateFile sandbox.directory path
  return { sandbox with
    tree := sandbox.tree.overwrite location (Text.utf8Bytes text) false }

/-- The directory in which scratch directories are made. -/
def scratchParent (sandbox : Sandbox) : String :=
  (sandbox.env.lookup "TMPDIR").getD "/tmp"

def scratchNames : List String :=
  (List.range 1000).map fun n =>
    "ctc-" ++ String.ofList ((Nat.toDigits 10 (1000000 + n)).drop 1)

/-- A new directory with the first name that is free. -/
def makeScratch (sandbox : Sandbox) : Except OsError (String × Sandbox) :=
  let parent := Path.join sandbox.directory.path sandbox.scratchParent
  let paths := scratchNames.map (Path.join parent)
  let free := fun path =>
    match sandbox.tree.find sandbox.directory path with
    | .ok _ => false
    | .error _ => true
  let path := (paths.find? free).getD parent
  match sandbox.tree.makeDirectory sandbox.directory path with
  | .ok tree => .ok (path, { sandbox with tree })
  | .error error => .error (.atPath error path)

/-- Puts other files in place. The working directory is the same one, wherever it is now. -/
def withTree (sandbox : Sandbox) (tree : FileTree) : Sandbox :=
  let shifts := tree.shifts.drop sandbox.tree.shifts.length
  { sandbox with tree, directory := sandbox.directory.after shifts }

/-- Removes a directory with all it holds. Of a link only the link itself is removed, and a file is
left alone. -/
def removeDirectory (sandbox : Sandbox) (path : String) : Sandbox :=
  let removed := fun (location : Location) => sandbox.withTree (sandbox.tree.erase location)
  match sandbox.tree.findAs false sandbox.directory path with
  | .ok (location, .directory) => removed location
  | .ok (location, .link _) => removed location
  | _ => sandbox

/-- The paths that are tried to start a program, in order. A name with a slash is a path. -/
def programPaths (sandbox : Sandbox) (program : String) : List String :=
  if program.isEmpty then []
  else if program.contains '/' then [program]
  else
    sandbox.programDirectories.map fun directory =>
      if directory.isEmpty then program else directory ++ "/" ++ program

/-- The first of some paths at which a program can be started from a directory. A file that may not
be run is passed over but remembered; where there is none, the search goes on. -/
def startable (tree : FileTree) (directory : Location) (args : List String) (denied : Bool)
    (last : OsError) : List String → Except OsError Program
  | [] => .error (if denied then .permissionDenied else last)
  | path :: rest =>
      match tree.program directory (Text.octets path) (Text.octets path) args programDepth with
      | .ok program => .ok program
      | .error .permissionDenied => startable tree directory args true last rest
      | .error .notFound => startable tree directory args denied .notFound rest
      | .error .notDirectory => startable tree directory args denied .notDirectory rest
      | .error error => .error error

/-- The shell that stands for whoever starts a program. -/
def starter (sandbox : Sandbox) (directory : Location) : Shell :=
  { id := 1
    world := { tree := sandbox.tree }
    directory
    workingPath := Text.octets directory.path
    self := "" }

def runProgram (sandbox : Sandbox) (program : String) (args : List String) (directory : String) :
    Except OsError (Finished × Sandbox) := do
  if (program :: directory :: args).any (·.contains '\x00') then throw .nulInRequest
  let (place, entry) ← sandbox.tree.find sandbox.directory directory
  if entry ≠ .directory then throw .notDirectory
  if !program.contains '/' ∧ nameLimit < program.utf8ByteSize then throw .nameTooLong
  let started ← startable sandbox.tree place (args.map Text.octets) false .notFound
    (sandbox.programPaths program)
  let env := sandbox.env.map fun (name, value) => (Text.octets name, Text.octets value)
  let act := Act.runProgram (Act.run runDepth) env started runDepth
  let (status, after) := (ExceptT.run act).run (sandbox.starter place)
  let written := fun (pipe : Nat) => Text.bytesOfOctets (after.world.pipes[pipe]?.getD "")
  let status :=
    match status with
    | .ok status => status
    | .error (.killed signal) => .killed signal
    | .error _ => .exited after.status
  return (⟨status, written 0, written 1⟩, sandbox.withTree after.world.tree)

/-- Records an event, and shows it if someone listens for it. -/
def report (sandbox : Sandbox) (event : Event) : Sandbox :=
  let shown := sandbox.listening.any (·.shows event)
  { sandbox with
    events := sandbox.events ++ [event]
    stderr := if shown then sandbox.stderr ++ event.render ++ "\n" else sandbox.stderr }

/-- Takes an answer out of a request that may also change the machine. -/
def settle {α : Type} (request : Sandbox → Except OsError (α × Sandbox)) :
    StateM Sandbox (Except OsError α) :=
  fun sandbox =>
    match request sandbox with
    | .ok (answer, sandbox) => (.ok answer, sandbox)
    | .error error => (.error error, sandbox)

instance : Host (StateM Sandbox) where
  report event := modify (·.report event)
  getEnv name := return (← get).env.lookup name
  findProgram name := return (← get).findProgram name
  canonical path := return (← get).canonical path
  readText path := return (← get).readText path
  writeText path text := settle fun sandbox => do return ((), ← sandbox.writeText path text)
  scratchParent := return (← get).scratchParent
  makeScratch := settle makeScratch
  removeScratch path := modify (·.removeDirectory path)
  runProgram program args directory := settle (·.runProgram program args directory)

instance : Console (StateM Sandbox) where
  workingDirectory := return (← get).directory.path
  listen filter := modify ({ · with listening := some filter })
  print text := modify fun sandbox => { sandbox with stdout := sandbox.stdout ++ text }
  complain text := modify fun sandbox => { sandbox with stderr := sandbox.stderr ++ text }

end Sandbox

end StraightLine
