/-! Programs that have run to their end. -/

namespace StraightLine

inductive ExitStatus where
  | exited (code : Nat)
  | killed (signal : Nat)
  deriving DecidableEq, Repr

/-- The names of signals, at the positions of their numbers. -/
def signalNames : List String :=
  ["", "SIGHUP", "SIGINT", "SIGQUIT", "SIGILL", "SIGTRAP", "SIGABRT", "SIGBUS", "SIGFPE", "SIGKILL",
    "SIGUSR1", "SIGSEGV", "SIGUSR2", "SIGPIPE", "SIGALRM", "SIGTERM", "SIGSTKFLT", "SIGCHLD",
    "SIGCONT", "SIGSTOP", "SIGTSTP", "SIGTTIN", "SIGTTOU", "SIGURG", "SIGXCPU", "SIGXFSZ",
    "SIGVTALRM", "SIGPROF", "SIGWINCH", "SIGIO", "SIGPWR", "SIGSYS"]

namespace ExitStatus

/-- A program succeeds by ending on its own with code zero. -/
def isSuccess (status : ExitStatus) : Bool :=
  status == .exited 0

/-- The code of a program that ended on its own. -/
def code? : ExitStatus → Option Nat
  | .exited code => some code
  | .killed _ => none

def describe : ExitStatus → String
  | .exited code => "exit status: " ++ toString code
  | .killed signal =>
      "signal: " ++ toString signal
        ++ (match signalNames[signal]? with
          | some name => " (" ++ name ++ ")"
          | none => "")

end ExitStatus

/-- A program that has ended, with all it wrote. -/
structure Finished where
  status : ExitStatus
  stdout : List UInt8
  stderr : List UInt8
  deriving DecidableEq, Repr

end StraightLine
