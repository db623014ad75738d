import StraightLine.Compile
import StraightLine.Text.Utf8
import StraightLine.Tool

/-! Building a project: its program text is compiled, the code is written to a scratch directory,
and two programs make an executable of it. The first step that fails ends the build. -/

namespace StraightLine

/-- What to build. The executable's path is relative to the project. -/
structure Request where
  directory : String
  output : String
  keepScratch : Bool := false
  overrides : Overrides := {}
  options : Options := {}
  deriving DecidableEq, Repr

/-- What a build made. The scratch directory is named if it was kept. -/
structure Artifacts where
  executable : String
  scratch : Option String
  deriving DecidableEq, Repr

inductive BuildError where
  | io (path : String) (error : OsError)
  | compile (error : CompileError)
  | toolNotFound (role : Role)
  | toolSpawn (program : String) (error : OsError)
  | toolFailed (program : String) (args : List String) (status : ExitStatus)
      (stdout stderr : String)
  deriving DecidableEq, Repr

/-- What a program wrote to one stream, under a heading; nothing if it wrote nothing. -/
def captured (heading output : String) : String :=
  if output.isEmpty then ""
  else "\n--- " ++ heading ++ " ---\n" ++ Text.trimEnd output

def BuildError.message : BuildError → String
  | .io path error => "failed to access " ++ path ++ ": " ++ error.message
  | .compile error => error.message
  | .toolNotFound role =>
      role.label ++ " `" ++ role.command ++ "` not found: " ++ notFoundReason
  | .toolSpawn program error => "failed to start " ++ program ++ ": " ++ error.message
  | .toolFailed program args status stdout stderr =>
      "command failed: " ++ program ++ " " ++ " ".intercalate args ++ "\n" ++ status.describe
        ++ captured "stdout" stdout ++ captured "stderr" stderr

/-- What lies behind an error, where that is something else. -/
def BuildError.cause? : BuildError → Option String
  | .io _ error => some error.message
  | .toolNotFound _ => some notFoundReason
  | .toolSpawn _ error => some error.message
  | .compile _ => none
  | .toolFailed _ _ _ _ _ => none

/-- The program text of a project. -/
def projectFile : String := "Program.ct"

/-- The file in the scratch directory that holds the code. -/
def codeFile : String := "out.ssa"

/-- The file in the scratch directory that the backend makes. -/
def assemblyFile : String := "out.s"

variable {m : Type → Type} [Monad m] [Host m]

/-- A request to the machine as a step of a build. -/
def attempt {ε α : Type} (wrap : ε → BuildError) (request : m (Except ε α)) :
    ExceptT BuildError m α :=
  ExceptT.mk do return (← request).mapError wrap

/-- Compiles a text and passes on what the compilation reports. -/
def compileStep (options : Options) (text : String) : ExceptT BuildError m String := do
  let compiled := compile options text
  compiled.events.forM fun event => Host.report (m := m) event
  attempt BuildError.compile (pure compiled.outcome : m _)

/-- Runs a program; it has to succeed. -/
def runTool (tool : Tool) (args : List String) (directory : String) :
    ExceptT BuildError m Unit := do
  Host.report (m := m) (.running tool.program tool.origin.describe)
  let finished ← attempt (.toolSpawn tool.program) (Host.runProgram tool.program args directory)
  unless finished.status.isSuccess do
    throw (.toolFailed tool.program args finished.status (Text.lossyText finished.stdout)
      (Text.lossyText finished.stderr))

/-- Writes the code to the scratch directory and runs both programs there. -/
def assemble (tools : Toolchain) (code scratch executable : String) :
    ExceptT BuildError m Unit := do
  let codePath := Path.join scratch codeFile
  let assemblyPath := Path.join scratch assemblyFile
  attempt (.io codePath) (Host.writeText codePath code)
  Host.report (m := m) (.wrote codePath code.utf8ByteSize)
  runTool tools.backend ["-o", assemblyPath, codePath] scratch
  runTool tools.linker [assemblyPath, "-o", executable] scratch

/-- Builds a project. The scratch directory goes away unless the build succeeds and is asked to keep
it. -/
def build (request : Request) : ExceptT BuildError m Artifacts := do
  let directory ← attempt (.io request.directory) (Host.canonical request.directory)
  let sourcePath := Path.join directory projectFile
  let text ← attempt (.io sourcePath) (Host.readText sourcePath)
  Host.report (m := m) (.compiling sourcePath)
  let code ← compileStep request.options text
  let tools ← attempt .toolNotFound request.overrides.resolve.run
  let parent ← Host.scratchParent (m := m)
  let scratch ← attempt (.io parent) Host.makeScratch
  let executable := Path.join directory request.output
  match ← ExceptT.lift (assemble tools code scratch executable).run with
  | .error error =>
      Host.removeScratch (m := m) scratch
      throw error
  | .ok () =>
      Host.report (m := m) (.built executable)
      if request.keepScratch then
        return ⟨executable, some scratch⟩
      else
        Host.removeScratch (m := m) scratch
        return ⟨executable, none⟩

end StraightLine
