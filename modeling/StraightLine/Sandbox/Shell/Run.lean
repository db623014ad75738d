import StraightLine.Sandbox.Shell.Start

/-! Running commands. A step of a shell is written over a way to run the commands inside it, and
running a command is that step with itself put in, as deep as a bound allows. -/

namespace StraightLine.Sandbox

/-- How deep commands may run in commands. -/
def runDepth : Nat := 20000

/-- How often a loop may go round. -/
def loopLimit : Nat := 100000

namespace Act

def call (run : Runner) (tested : Bool) (body : Command) (args : List String) : Act Nat := do
  let before ← get
  set { before with args, calls := before.calls + 1, loops := 0, saved := [] }
  let status ← run tested body
  modify fun shell =>
    let shell := shell.saved.foldl (fun shell (name, var) => shell.restore name var) shell
    { shell with
      args := before.args
      calls := before.calls
      loops := before.loops
      saved := before.saved
      skip := if shell.skip = .back then .nothing else shell.skip }
  return status

/-- Runs the script in a file here. -/
def runHere (run : Runner) (args : List String) : Act Nat := do
  match args with
  | [] => return 0
  | name :: _ => do
      let shell ← get
      let place :=
        if name.contains '/' then some name
        else (commandPaths shell name).find? fun path =>
          match shell.world.tree.find shell.directory (Text.ofOctets path) with
          | .ok (_, .file _ _) => true
          | _ => false
      match place with
      | none => refuse (name ++ ": not found")
      | some path =>
          match shell.world.tree.find shell.directory (Text.ofOctets path) with
          | .error error => refuse ("cannot open " ++ path ++ ": " ++ openReason false error)
          | .ok (_, entry) => do
              let text := trimNuls (Text.octetsOfBytes entry.bytes)
              let command := (← get).command
              modify ({ · with command := path })
              let status ← runText run text
              modify fun shell =>
                { shell with
                  command, skip := if shell.skip = .back then .nothing else shell.skip }
              return status

/-- Puts a program in the place of the shell. -/
def become (run : Runner) (name : String) (args : List String) : Act Nat := do
  let status ← runFile run name args
  modify fun shell => { shell with traps := [] }
  match status with
  | .exited status => do
      setStatus status
      throw .ended
  | .killed signal => throw (.killed signal)

def runOwn (run : Runner) (name : String) (args : List String) : Act Nat := do
  match name, args with
  | "eval", [] => return 0
  | "eval", words => runText run (" ".intercalate words)
  | ".", words => runHere run words
  | "exec", [] => return 0
  | "exec", name :: words => become run name words
  | name, words =>
      match ownCommand? name with
      | some act => act words
      | none => return 127

def runNamed (run : Runner) (name : String) (args : List String) : Act Nat := do
  let before := (← get).command
  modify ({ · with command := name })
  let status ← runOwn run name args
  modify ({ · with command := before })
  return status

/-- Runs one of the shell's own commands. Only a special one that refuses ends the shell. -/
def runBuiltin (run : Runner) (special : Bool) (name : String) (args : List String) :
    Act Nat := do
  let before := (← get).command
  if special then runNamed run name args
  else do
    let status ← guarded (runNamed run name args)
    modify ({ · with command := before })
    return status

/-- Sets variables from assignments. Where they are for one command only, what they were is given
back. -/
def assignAll (run : Runner) (passing : Bool) :
    List (String × ShellWord) → Act (List (String × Option Variable) × List String)
  | [] => return ([], [])
  | (name, word) :: rest => do
      let value ← expandValue (substitute run) word
      let before := (← get).vars.lookup name
      assign name value
      if passing then
        modify fun shell =>
          shell.putVariable name { (shell.vars.lookup name).getD {} with exported := true }
      let (saved, texts) ← assignAll run passing rest
      return ((name, before) :: saved, (name ++ "=" ++ value) :: texts)

/-- Shows a command before it is run, where that is asked for. -/
def trace (descriptors : Descriptors) (texts : List String) : Act Unit := do
  let shell ← get
  if shell.has 'x' then
    match descriptors.lookup 2 with
    | some opened =>
        let line := (shell.value? "PS4").getD "" ++ " ".intercalate texts ++ "\n"
        set { shell with world := shell.world.write opened line }
    | none => pure ()

/-- Runs a command by its name: a function, one of the shell's own, or a file. -/
def dispatch (run : Runner) (tested : Bool) (functions special : Bool) (name : String)
    (args : List String) : Act Nat := do
  let shell ← get
  let mayCall := functions && !specialCommands.contains name
  match if mayCall then shell.functions.lookup name else none with
  | some body => call run tested body args
  | none =>
      if ownCommands.contains name then runBuiltin run special name args
      else do
        let status ← runFile run name args
        tellSignal status
        return statusNumber status

/-- Describes commands, or runs one that is no function. -/
def runCommand (run : Runner) (tested : Bool) (args : List String) : Act Nat := do
  let before := (← get).command
  modify ({ · with command := "command" })
  let (found, words) ← letters ['p', 'v', 'V'] args
  match words with
  | [] => return 0
  | name :: rest => do
      let asks := found.filter (· ≠ 'p')
      if asks.isEmpty then
        modify ({ · with command := before })
        dispatch run tested false false name rest
      else describeCommand (asks.contains 'v') name

def runWords (run : Runner) (tested : Bool) (words : List String) : Act Nat := do
  match words with
  | "command" :: args => do
      let before := (← get).command
      let status ← guarded (runCommand run tested args)
      modify ({ · with command := before })
      return status
  | name :: args => dispatch run tested true (specialCommands.contains name) name args
  | [] => return 0

/-- Runs a simple command: its words are expanded, descriptors led elsewhere, variables set, and
what the words name is run. -/
def simple (run : Runner) (tested : Bool) (line : Nat) (assignments : List (String × ShellWord))
    (words : List ShellWord) (redirects : List Redirect) : Act Nat := do
  modify ({ · with line, substituted := 0 })
  let words ← expandAll (substitute run) words
  let before := (← get).descriptors
  let keeps := words = ["exec"] ∨ words = ["command", "exec"]
  let special := (words.head?.map specialCommands.contains).getD false
  let done ← redirect run redirects
  if !done then
    modify ({ · with descriptors := before })
    setStatus 2
    if special then throw .error
    return 2
  let passing := !words.isEmpty && !special
  let (saved, texts) ← assignAll run passing assignments
  if !(texts ++ words).isEmpty then trace before (texts ++ words)
  let status ←
    if words.isEmpty then pure (← get).substituted
    else runWords run tested words
  if !keeps then modify ({ · with descriptors := before })
  if passing then
    modify fun shell => saved.reverse.foldl (fun shell (name, var) => shell.restore name var) shell
  return status

/-- Runs the stages of a pipeline, each in a copy of the shell, with pipes between them. -/
def pipe (run : Runner) (input : Option Nat) : List Command → Act ExitStatus
  | [] => return .exited 0
  | stage :: rest => do
      let shell ← get
      let (output, world) :=
        if rest.isEmpty then (none, shell.world)
        else
          let (opened, world) := shell.world.makePipe
          (some opened, world)
      set { shell with world }
      let status ← fork run do
        modify fun shell =>
          let descriptors := shell.descriptors
          let descriptors := (input.map (descriptors.lead 0)).getD descriptors
          { shell with descriptors := (output.map (descriptors.lead 1)).getD descriptors }
        let _ ← run false stage
      tellSignal status
      if rest.isEmpty then return status else pipe run output rest

/-- Whether a loop goes on after a round. What keeps commands from being run is one level further up
after it. -/
def goesRound : Act Bool := do
  let shell ← get
  match shell.skip with
  | .nothing => return true
  | .next 1 => do
      set { shell with skip := .nothing }
      return true
  | .leave 1 => do
      set { shell with skip := .nothing }
      return false
  | .next levels => do
      set { shell with skip := .next (levels - 1) }
      return false
  | .leave levels => do
      set { shell with skip := .leave (levels - 1) }
      return false
  | .back => return false

/-- Runs a list of words through the body of a loop. -/
def eachWord (run : Runner) (tested : Bool) (name : String) (body : Command) :
    List String → Act Nat
  | [] => return (← get).status
  | word :: rest => do
      assign name word
      let status ← run tested body
      if ← goesRound then eachWord run tested name body rest else return status

/-- Runs a body as long as a test says so. -/
def again (run : Runner) (tested whileTrue : Bool) (test body : Command) (last : Nat) :
    Nat → Act Nat
  | 0 => return last
  | rounds + 1 => do
      let answer ← run true test
      match (← get).skip with
      | .nothing =>
          if (answer = 0) = whileTrue then do
            let status ← run tested body
            if ← goesRound then again run tested whileTrue test body status rounds
            else return status
          else return last
      | .back => return answer
      | _ => if ← goesRound then again run tested whileTrue test body last rounds else return last

/-- The first of some clauses of which a pattern matches. -/
def chosen (run : Runner) (subject : String) :
    List (List ShellWord × Command) → Act (Option Command)
  | [] => return none
  | (patterns, body) :: rest => do
      let mut found := false
      for pattern in patterns do
        if !found then
          let pattern ← expandPattern (substitute run) pattern
          found := pattern.covers subject.toList
      if found then return some body else chosen run subject rest

/-- Runs commands one after another until something keeps the rest from being run. -/
def inOrder (run : Runner) (tested : Bool) : List Command → Act Nat
  | [] => return (← get).status
  | command :: rest => do
      let status ← run tested command
      if rest.isEmpty || (← get).skip ≠ .nothing then return status else inOrder run tested rest

/-- Runs a command over a way to run those inside it, and gives its status and whether a failure
ends a shell that is told to end at failures. -/
def stepStatus (run : Runner) (tested : Bool) : Command → Act (Nat × Bool)
  | .simple line assignments words redirects => do
      return (← simple run tested line assignments words redirects, true)
  | .pipeline stages => do
      let status ← pipe run none stages
      return (statusNumber status, true)
  | .negated command => do
      let status ← run true command
      return (if status = 0 then 1 else 0, false)
  | .both left right => do
      let status ← run true left
      if status = 0 ∧ (← get).skip = .nothing then return (← run tested right, false)
      else return (status, false)
  | .either left right => do
      let status ← run true left
      if status ≠ 0 ∧ (← get).skip = .nothing then return (← run tested right, false)
      else return (status, false)
  | .sequence commands => do return (← inOrder run tested commands, false)
  | .background command => do
      let status ← fork run do
        let _ ← run false command
      modify fun shell =>
        let world := { shell.world with started := shell.world.started + 1 }
        { shell with
          world, jobs := (toString (4242 + world.started), statusNumber status) :: shell.jobs }
      return (0, false)
  | .subshell line body redirects => do
      modify ({ · with line })
      let before := (← get).descriptors
      let done ← redirect run redirects
      if !done then
        modify ({ · with descriptors := before })
        return (2, true)
      let status ← fork run do
        let _ ← run tested body
      modify ({ · with descriptors := before })
      tellSignal status
      return (statusNumber status, true)
  | .redirected line body redirects => do
      modify ({ · with line })
      let before := (← get).descriptors
      let done ← redirect run redirects
      let status ← if done then run tested body else pure 2
      modify ({ · with descriptors := before })
      return (status, !done)
  | .conditional test consequence alternative => do
      let answer ← run true test
      if (← get).skip ≠ .nothing then return (answer, false)
      if answer = 0 then return (← run tested consequence, false)
      else
        match alternative with
        | some alternative => return (← run tested alternative, false)
        | none => return (0, false)
  | .loop whileTrue test body => do
      modify fun shell => { shell with loops := shell.loops + 1 }
      let status ← again run tested whileTrue test body 0 loopLimit
      modify fun shell => { shell with loops := shell.loops - 1 }
      return (status, false)
  | .forEach line name words body => do
      modify ({ · with line })
      let words ←
        match words with
        | some words => expandAll (substitute run) words
        | none => pure (← get).args
      modify fun shell => { shell with loops := shell.loops + 1 }
      setStatus 0
      let status ← eachWord run tested name body words
      modify fun shell => { shell with loops := shell.loops - 1 }
      return (status, false)
  | .choose line subject clauses => do
      modify ({ · with line })
      let subject ← expandText (substitute run) subject
      match ← chosen run subject clauses with
      | some body => return (← run tested body, false)
      | none => return (0, false)
  | .define line name body => do
      modify fun shell =>
        let others := shell.functions.filter fun (other, _) => other ≠ name
        { shell with line, functions := (name, body) :: others }
      return (0, false)

/-- Runs a command over a way to run those inside it. -/
def step (run : Runner) : Runner := fun tested command => do
  if (← get).has 'n' then return (← get).status
  let (status, checked) ← stepStatus run tested command
  setStatus status
  if checked && !tested && status ≠ 0 && (← get).has 'e' then throw .ended
  answerSignals run
  return (← get).status

def run : Nat → Runner
  | 0 => fun _ _ => refuse "commands nested too deep"
  | depth + 1 => step (run depth)

end Act

end StraightLine.Sandbox
