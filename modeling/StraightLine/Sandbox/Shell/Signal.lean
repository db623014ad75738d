import StraightLine.Sandbox.Shell.Variables

/-! Signals: their names, what they do to a shell, and the commands that send and await them. -/

namespace StraightLine.Sandbox

/-- The signals that end a program which does nothing about them. -/
def isFatal (signal : Nat) : Bool :=
  signal ∉ [0, 17, 18, 19, 20, 21, 22, 23, 28] && signal < 65

/-- What the system says of a program that a signal has ended. -/
def signalText (signal : Nat) : String :=
  match signal with
  | 1 => "Hangup"
  | 3 => "Quit"
  | 4 => "Illegal instruction"
  | 5 => "Trace/breakpoint trap"
  | 6 => "Aborted"
  | 7 => "Bus error"
  | 8 => "Floating point exception"
  | 9 => "Killed"
  | 10 => "User defined signal 1"
  | 11 => "Segmentation fault"
  | 12 => "User defined signal 2"
  | 14 => "Alarm clock"
  | 15 => "Terminated"
  | 16 => "Stack fault"
  | 24 => "CPU time limit exceeded"
  | 25 => "File size limit exceeded"
  | 26 => "Virtual timer expired"
  | 27 => "Profiling timer expired"
  | 29 => "I/O possible"
  | 30 => "Power failure"
  | 31 => "Bad system call"
  | n => if n ≥ 34 then "Real-time signal " ++ toString (n - 34) else ""

/-- The name of a signal, or its number if it has none. -/
def signalName (signal : Nat) : String :=
  if signal = 0 then "EXIT"
  else if signal = 16 ∨ signal = 32 ∨ signal = 33 then toString signal
  else if signal < 32 then ((signalNames.getD signal "").dropPrefix "SIG").copy
  else if signal = 34 then "RTMIN"
  else if signal = 64 then "RTMAX"
  else if signal < 50 then "RTMIN+" ++ toString (signal - 34)
  else "RTMAX-" ++ toString (64 - signal)

def signalNumber? (text : String) : Option Nat :=
  if !text.isEmpty ∧ text.toList.all Char.isDigit then
    text.toNat?.bind fun n => if n < 65 then some n else none
  else none

def signal? (text : String) : Option Nat :=
  match signalNumber? text with
  | some signal => some signal
  | none => (List.range 65).find? fun signal => signalName signal = text.toUpper

namespace Act

/-- Sends a signal to a program. One that the shell itself gets is dealt with when the command is
over, unless it ends the shell. -/
def sendSignal (signal target : Nat) : Act Bool := do
  let shell ← get
  if target = shell.id ∧ !shell.isChild then
    if signal = 0 then return true
    match if signal = 9 then none else shell.traps.lookup signal with
    | some action =>
        if !action.isEmpty then set { shell with arrived := shell.arrived ++ [signal] }
        return true
    | none => if isFatal signal then throw (.killed signal) else return true
  else if target = shell.id ∨ shell.world.running.contains target then
    set { shell with world := { shell.world with sent := shell.world.sent ++ [(target, signal)] } }
    return true
  else return shell.jobs.any fun (job, _) => job.toNat? = some target

def kill (args : List String) : Act Nat := do
  let usage : Act (Option Nat × List String × Bool) :=
    refuse ("Usage: kill [-s sigspec | -signum | -sigspec] [pid | job]... or\n"
      ++ "kill -l [exitstatus]")
  let (signal, words, lists) ←
    match args with
    | [] => usage
    | word :: rest =>
        match word.toList with
        | '-' :: letters =>
            match signal? (String.ofList letters), letters, rest with
            | some signal, _, _ => pure (some signal, rest, false)
            | none, ['-'], _ => pure (none, rest, false)
            | none, ['l'], _ => pure (none, rest, true)
            | none, ['s'], [] => refuse "No arg for -s option"
            | none, ['s'], name :: rest =>
                match signal? name with
                | some signal => pure (some signal, rest, false)
                | none => refuse ("invalid signal number or name: " ++ name)
            | none, c :: _, _ => refuse ("Illegal option -" ++ c.toString)
            | none, [], _ => pure (none, word :: rest, false)
        | _ => pure (none, args, false)
  if lists then
    match words with
    | [] => out (String.join ((List.range 65).map fun signal =>
        (if signal = 0 then "0" else signalName signal) ++ "\n"))
    | word :: _ => do
        let number ← digits word
        let signal := if number > 128 then number - 128 else number
        if 0 < signal ∧ signal < 65 then out (signalName signal ++ "\n")
        else refuse ("invalid signal number or exit status: " ++ word)
  else if words.isEmpty then do
    let _ ← usage
    return 2
  else do
    let mut status := 0
    for word in words do
      let target ← digits word
      let done ← sendSignal (signal.getD 15) target
      if !done then
        complain "No such process\n"
        status := 1
    return status

/-- Sets what is done when signals arrive, or shows it. -/
def trap (args : List String) : Act Nat := do
  let (_, words) ← letters [] args
  let shell ← get
  match words with
  | [] =>
      let traps := (List.range 65).filterMap fun signal =>
        (shell.traps.lookup signal).map fun action => (signal, action)
      out (String.join (traps.map fun (signal, action) =>
        "trap -- " ++ singleQuoted action ++ " " ++ signalName signal ++ "\n"))
  | first :: rest => do
      let resets := rest.isEmpty ∨ (signalNumber? first).isSome
      let action := if resets ∨ first = "-" then none else some first
      let mut status := 0
      for word in if resets then words else rest do
        if status = 0 then
          match signal? word with
          | none =>
              put 2 ("trap: " ++ word ++ ": bad trap\n")
              status := 1
          | some signal =>
              modify fun shell =>
                let others := shell.traps.filter fun (other, _) => other ≠ signal
                { shell with
                  traps :=
                    match action with
                    | some action => (signal, action) :: others
                    | none => others }
      return status

end Act

end StraightLine.Sandbox
