import StraightLine.CommandLine
import StraightLine.CommandLine.LogFilter

/-! Running a command: what it prints, what it complains about, and the code it ends with. -/

namespace StraightLine

class Console (m : Type → Type) extends Host m where
  /-- The working directory. -/
  workingDirectory : m String
  /-- From now on, shows the reports that a filter lets through among the complaints. -/
  listen : LogFilter → m Unit
  /-- Prints text. -/
  print : String → m Unit
  /-- Prints text where complaints go. -/
  complain : String → m Unit

/-- The verbosity that a command line asks for. -/
def Verbosity.ofCount : Nat → Verbosity
  | 0 => .warn
  | 1 => .info
  | _ => .debug

def versionText : String := "ctc 0.1.0\n"

def usageText : String :=
  "Compiler for `.ct` programs\n\n"
    ++ "Usage: ctc [-v] build [-d DIR] -o OUT [--keep-temps] [--no-optimize] [--qbe PATH] "
    ++ "[--cc PATH]\n"
    ++ "       ctc [-v] emit-ir FILE [--no-optimize]\n"
    ++ "       ctc [-v] check FILE\n"
    ++ "       ctc --version\n"

variable {m : Type → Type} [Monad m] [Console m]

/-- Complains about a failure and what lies behind it. -/
def fail (message : String) (cause : Option String) : m Nat := do
  Console.complain ("Error: " ++ message
    ++ (match cause with
      | some cause => "\n\nCaused by:\n    " ++ cause
      | none => "")
    ++ "\n")
  return 1

def complainAll (diagnostics : List Diagnostic) : m Unit :=
  Console.complain (String.join (diagnostics.map (·.render ++ "\n")))

/-- Complains about a text that is not compiled. -/
def failCompile : CompileError → m Nat
  | .rejected diagnostics => do
      complainAll diagnostics
      return 1
  | error => fail error.message none

/-- Runs what needs the text of a file, or complains that it cannot be read. -/
def withText (file : String) (use : String → m Nat) : m Nat := do
  match ← Host.readText file with
  | .ok text => use text
  | .error error => fail ("reading " ++ Text.quoted file) (some error.message)

/-- Passes on what a computation reports and gives its outcome. -/
def follow {ε α : Type} (traced : Traced ε α) : m (Except ε α) := do
  traced.events.forM Host.report
  return traced.outcome

/-- Runs a command to its exit code. -/
def Command.run : Command → m Nat
  | .build directory output keepScratch overrides options => do
      let directory ←
        match directory with
        | some directory => pure directory
        | none => Console.workingDirectory
      match ← (StraightLine.build ⟨directory, output, keepScratch, overrides, options⟩).run with
      | .ok artifacts =>
          Console.print ("Built: " ++ artifacts.executable ++ "\n")
          match artifacts.scratch with
          | some scratch => Console.print ("Temp dir: " ++ scratch ++ "\n")
          | none => pure ()
          return 0
      | .error (.compile error) => failCompile error
      | .error error => fail error.message error.cause?
  | .emit file options =>
      withText file fun text => do
        match ← follow (compile options text) with
        | .ok code =>
            Console.print code
            return 0
        | .error error => failCompile error
  | .check file =>
      withText file fun text => do
        match ← follow (analyze text) with
        | .ok program =>
            complainAll program.diagnostics
            return if program.hasErrors then 1 else 0
        | .error error => fail error.message none

/-- Runs a command line to its exit code. The environment, if it holds a filter for reports, decides
alone which are shown. -/
def runCommandLine (words : List String) : m Nat := do
  match CommandLine.read words with
  | .error .help =>
      Console.print usageText
      return 0
  | .error .version =>
      Console.print versionText
      return 0
  | .error .misuse =>
      Console.complain usageText
      return 2
  | .ok invocation =>
      let filter := (← Host.getEnv "RUST_LOG").bind LogFilter.ofText?
      Console.listen (filter.getD (.ofVerbosity (.ofCount invocation.verbose)))
      invocation.command.run

end StraightLine
