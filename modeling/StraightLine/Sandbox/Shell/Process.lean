import StraightLine.Sandbox.Script.Read
import StraightLine.Sandbox.Shell.Signal

/-! Shells as they run: script by script, to their ends, and as copies whose output is taken. -/

namespace StraightLine.Sandbox

namespace Act

/-- Runs an act whose complaints do not end the shell: they only give it its status. -/
def guarded (act : Act Nat) : Act Nat :=
  tryCatch act fun raised =>
    match raised with
    | .error => return 2
    | raised => throw raised

/-- A script's text without the characters that a shell passes over. -/
def trimNuls (text : String) : String :=
  String.ofList (text.toList.filter (· ≠ '\x00'))

/-- Runs the lines of a script one after another until one ends it. -/
def runLines (run : Runner) : List (Nat × Command) → Act Nat
  | [] => return (← get).status
  | (next, command) :: rest => do
      let shell ← get
      if shell.skip ≠ .nothing ∨ shell.has 'n' then return shell.status
      set { shell with readLine := next }
      let _ ← run false command
      runLines run rest

/-- Runs a script, and complains where it cannot be read on. -/
def runScript (run : Runner) (script : Script) : Act Nat := do
  let status ← runLines run script.commands
  let shell ← get
  match script.fault with
  | some fault =>
      if shell.skip ≠ .nothing ∨ shell.has 'n' then return status
      modify ({ · with line := fault.line })
      refuse fault.reason
  | none => return status

/-- Runs a text as a script of its own. Without commands its status is zero. -/
def runText (run : Runner) (text : String) : Act Nat := do
  let script := Script.ofText text 1
  if script.commands.all fun (_, command) => command matches .sequence [] then setStatus 0
  runScript run script

/-- Does what is to be done about signals that have arrived. -/
def answerSignals (run : Runner) : Act Unit := do
  let shell ← get
  if shell.arrived.isEmpty then return
  set { shell with arrived := [] }
  for signal in shell.arrived do
    let before := (← get).status
    match (← get).traps.lookup signal with
    | some action =>
        let status ← runText run action
        setStatus (if (← get).skip = .back then status else before)
    | none => pure ()

/-- Runs a shell to its end: what it has been told to do at its end is done, unless a signal ends
it. -/
def conclude (run : Runner) (act : Act Unit) (shell : Shell) : ExitStatus × Shell :=
  let ending := fun (raised : Option Raised) (shell : Shell) =>
    match raised with
    | some (.killed signal) => (ExitStatus.killed signal, shell)
    | _ => (ExitStatus.exited (shell.status % 256), shell)
  let (result, after) := (ExceptT.run act).run shell
  let raised :=
    match result with
    | .ok _ => none
    | .error raised => some raised
  match raised, after.traps.lookup 0 with
  | some (.killed _), _ => ending raised after
  | _, none => ending raised after
  | _, some action =>
      let traps := after.traps.filter fun (signal, _) => signal ≠ 0
      let trapped := do
        let _ ← runText run action
      let (result, last) := (ExceptT.run trapped).run { after with traps, skip := .nothing }
      match result with
      | .ok _ => ending none { last with status := after.status }
      | .error raised => ending (some raised) last

/-- Deals with the signals that others have sent to this shell. -/
def receiveSignals : Act Unit := do
  let shell ← get
  if shell.isChild then return
  let mine := shell.world.sent.filter fun (target, _) => target = shell.id
  if mine.isEmpty then return
  let others := shell.world.sent.filter fun (target, _) => target ≠ shell.id
  set { shell with world := { shell.world with sent := others } }
  for (target, signal) in mine do
    let _ ← sendSignal signal target

/-- Tells of a program that a signal has ended. -/
def tellSignal (status : ExitStatus) : Act Unit :=
  match status with
  | .killed signal =>
      if (signalText signal).isEmpty then pure () else put 2 (signalText signal ++ "\n")
  | .exited _ => pure ()

/-- Runs an act in a copy of the shell. Only what it does to the world stays. -/
def fork (run : Runner) (act : Act Unit) : Act ExitStatus := do
  let shell ← get
  let child : Shell :=
    { shell with
      isChild := true
      jobs := []
      traps := shell.traps.filter fun (_, action) => action.isEmpty }
  let (status, after) := conclude run act child
  set (shell.inWorld after.world)
  receiveSignals
  return status

/-- The output of commands. -/
def substitute (run : Runner) (commands : List Command) : Act String := do
  let shell ← get
  let (opened, world) := shell.world.makePipe
  set { shell with world }
  let status ← fork run do
    modify fun shell => { shell with descriptors := shell.descriptors.lead 1 opened }
    if !commands.isEmpty then
      let _ ← run false (.sequence commands)
    else setStatus 0
  tellSignal status
  let shell ← get
  let text := (shell.world.available opened).toOption.getD ""
  set { shell with
    world := shell.world.consume opened text.length
    substituted := statusNumber status }
  return text

end Act

end StraightLine.Sandbox
