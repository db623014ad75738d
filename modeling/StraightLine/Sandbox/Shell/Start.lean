import StraightLine.Sandbox.Program
import StraightLine.Sandbox.Shell.Builtin
import StraightLine.Sandbox.Shell.Redirect
import StraightLine.Sandbox.Utility.Run

/-! Starting programs: those that a machine has, and other shells. -/

namespace StraightLine.Sandbox

namespace Act

/-- Sets the working path of a new shell. An absolute path from outside is taken over where it leads
to the working directory. -/
def settleDirectory (given : Option String) : Act Unit := do
  let shell ← get
  let leadsHere := fun (path : String) =>
    match shell.world.tree.find shell.directory (Text.ofOctets path) with
    | .ok (place, _) => Path.isAbsolute path && place = shell.directory
    | .error _ => false
  let workingPath ←
    match given.filter leadsHere with
    | some path => pure path
    | none => do
        modify ({ · with self := "sh" })
        physicalPath
  set (({ shell with world := (← get).world, workingPath }).putVariable "PWD"
    { value := some workingPath, exported := true })

def runShell (run : Runner) (self : String) (args : List String)
    (env : List (String × String)) : Act ExitStatus := do
  let outer ← get
  let world := outer.world
  let vars : List (String × Variable) := env.map fun (name, value) =>
    (name, { value := some value, exported := true })
  let fresh : Shell :=
    { id := 4242 + world.started
      world := { world with started := world.started + 1, running := outer.id :: world.running }
      descriptors := outer.descriptors
      directory := outer.directory
      workingPath := ""
      self, vars
      line := 0 }
  let searched := "/usr/local/sbin:/usr/local/bin:/usr/sbin:/usr/bin:/sbin:/bin"
  let defaults : List (String × String) :=
    (if (env.lookup "PATH").isNone then [("PATH", searched)] else [])
      ++ [("IFS", " \t\n"), ("OPTIND", "1"), ("PS1", "# "), ("PS2", "> "), ("PS4", "+ "),
        ("PPID", "4241")]
  let fresh := defaults.foldl (fun shell (name, value) =>
    shell.putVariable name { value := some value }) fresh
  let main : Act Unit := do
    settleDirectory (env.lookup "PWD")
    let (words, _, asksText) ← setOptions true args
    if asksText then
      match words with
      | [] => refuse "-c requires an argument"
      | text :: words => do
          modify fun shell =>
            { shell with
              self := words.headD shell.self, args := words.tail, line := 1 }
          let _ ← runText run (trimNuls text)
    else
      let shell ← get
      match words, shell.has 's' with
      | path :: words, false =>
          let text := (shell.world.tree.find shell.directory (Text.ofOctets path)).map fun found =>
            Text.octetsOfBytes found.2.bytes
          match text with
          | .ok text => do
              modify ({ · with self := path, args := words, line := 1 })
              let _ ← runText run (trimNuls text)
          | .error error =>
              refuse ("cannot open " ++ path ++ ": " ++ openReason false error)
      | words, _ => do
          let text :=
            ((shell.descriptors.lookup 0).bind fun opened =>
              (shell.world.available opened).toOption).getD ""
          let world :=
            match shell.descriptors.lookup 0 with
            | some opened => shell.world.consume opened text.length
            | none => shell.world
          set { shell with args := words, line := 1, world }
          let _ ← runText run (trimNuls text)
  let (status, after) := conclude run main fresh
  modify (·.inWorld { after.world with running := world.running })
  receiveSignals
  return status

/-- Where a program named on the command line of another is looked for. -/
def searchPaths (env : List (String × String)) (name : String) : List String :=
  if name.contains '/' then [name]
  else
    ((env.lookup "PATH").getD "/bin:/usr/bin").splitOn ":" |>.map fun directory =>
      if directory.isEmpty then name else directory ++ "/" ++ name

def runProgram (run : Runner) (env : List (String × String)) (program : Program) :
    Nat → Act ExitStatus
  | 0 => return .exited 126
  | depth + 1 => do
      let shell ← get
      match program.utility with
      | .shell => runShell run program.self program.args env
      | .env =>
          let request := environmentRequest env program.args
          let complain := fun (text : String) => put 2 (program.self ++ ": " ++ text ++ "\n")
          match request with
          | .error reason => do
              complain reason
              put 2 ("Try '" ++ program.self ++ " --help' for more information.\n")
              return .exited 125
          | .ok (env, []) => do
              put 1 (String.join (env.map fun (name, value) => name ++ "=" ++ value ++ "\n"))
              return .exited 0
          | .ok (env, name :: words) =>
              match shell.world.tree.firstProgram shell.directory name words .notFound
                  (searchPaths env name) with
              | .ok next => runProgram run env next depth
              | .error error => do
                  complain (quotedName name ++ ": " ++ error.reason.1)
                  return .exited (if error = .notFound ∨ error = .notDirectory then 127 else 126)
      | utility => do
          let opened := shell.descriptors.lookup 0
          let input :=
            match opened with
            | some opened => shell.world.available opened
            | none => .error .badDescriptor
          let isFile := opened.any shell.world.isFile
          let effect := utility.run
            ⟨shell.world.tree, shell.directory, program.self, input, isFile⟩ program.args
          let world := shell.world.withTree effect.tree
          let world :=
            match effect.readsInput, opened, input with
            | true, some opened, .ok text => world.consume opened text.length
            | _, _, _ => world
          set (shell.inWorld world)
          if utility.writesAtOnce then
            put 1 effect.out
            put 2 effect.err
          else
            put 2 effect.err
            put 1 effect.out
          return .exited effect.status

def startStatus (error : OsError) : Nat :=
  if error ∈ [.notFound, .notDirectory, .tooManyLinks, .nameTooLong] then 127 else 126

/-- The paths at which a command may be found, or why it is not found. -/
def locateCommand (name : String) : Act (Except String (List String)) := do
  let shell ← get
  if name.contains '/' then return .ok [name]
  let found := (commandPaths shell name).map fun path =>
    (path, shell.world.tree.find shell.directory (Text.ofOctets path))
  let isThere := fun (found : String × Except OsError (Location × Entry)) => found.2.toBool
  match found.find? fun (_, result) =>
      match result with
      | .ok (_, entry) => entry.isExecutable
      | .error _ => false with
  | some (path, _) => return .ok [path]
  | none =>
      return .error (name ++ (if found.any isThere then ": Permission denied" else ": not found"))

/-- Runs a command that is a file, and gives how it ended. -/
def runFile (run : Runner) (name : String) (args : List String) : Act ExitStatus := do
  match ← locateCommand name with
  | .error reason => do
      complain reason
      return .exited 127
  | .ok paths => do
      let shell ← get
      match shell.world.tree.firstProgram shell.directory name args .notFound paths with
      | .ok program => runProgram run shell.environment program 100
      | .error error => do
          let isMissing := error = .notFound ∨ error = .notDirectory
          complain (name ++ ": " ++ if isMissing then "not found" else error.reason.1)
          return .exited (startStatus error)

end Act

end StraightLine.Sandbox
