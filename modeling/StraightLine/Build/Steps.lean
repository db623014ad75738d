import StraightLine.Build
import StraightLine.Host.Record

/-! The steps of a build, told apart from the build itself: what each step asks of the machine, when
it fails and with which error. A course of steps ends with the first that fails. -/

namespace StraightLine

/-- The program the caller chose for a role. -/
def Overrides.choice (overrides : Overrides) : Role → Option String
  | .backend => overrides.backend
  | .linker => overrides.linker

def Toolchain.tool (tools : Toolchain) : Role → Tool
  | .backend => tools.backend
  | .linker => tools.linker

deriving instance Inhabited for Origin, Tool, Toolchain

/-- What the steps of a build find out for the steps after them. -/
structure Findings where
  directory : String
  text : String
  code : String
  tools : Toolchain
  scratch : String
  deriving Inhabited

namespace Findings

variable (request : Request) (findings : Findings)

def sourcePath : String :=
  Path.join findings.directory projectFile

def codePath : String :=
  Path.join findings.scratch codeFile

def assemblyPath : String :=
  Path.join findings.scratch assemblyFile

def executable : String :=
  Path.join findings.directory request.output

def args : Role → List String
  | .backend => ["-o", findings.assemblyPath, findings.codePath]
  | .linker => [findings.assemblyPath, "-o", findings.executable request]

def running (role : Role) : Ask :=
  .runProgram (findings.tools.tool role).program (findings.args request role) findings.scratch

/-- What a build gives, by the failure that ended it. -/
def result : Option BuildError → Except BuildError Artifacts
  | some error => .error error
  | none =>
      .ok ⟨findings.executable request,
        if request.keepScratch then some findings.scratch else none⟩

end Findings

inductive BuildStep where
  | canonicalize
  | read
  | compile
  | find (role : Role)
  | makeScratch
  | write
  | run (role : Role)
  deriving DecidableEq, Repr

/-- An answer either holds what the step was for, or fails it. -/
inductive Gives {ε α : Type} (wrap : ε → BuildError) (value : α) :
    Except ε α → Option BuildError → Prop
  | value : Gives wrap value (.ok value) none
  | failure (error : ε) : Gives wrap value (.error error) (some (wrap error))

/-- What is said in the search for a program, and what it finds. -/
inductive Finds (role : Role) : Option String → List Said → Option Tool → Prop
  | chosen (program : String) : Finds role (some program) [] (some ⟨program, .commandLine⟩)
  | environment (value : String) (hvalue : Text.isBlankText value = false) :
      Finds role none [⟨.getEnv role.envName, some value⟩]
        (some ⟨value, .environment role.envName⟩)
  | usual (setting found : Option String)
      (hsetting : ∀ value, setting = some value → Text.isBlankText value = true) :
      Finds role none [⟨.getEnv role.envName, setting⟩, ⟨.findProgram role.command, found⟩]
        (found.map (⟨·, .pathLookup⟩))

/-- How the run of a program fails: it does not start, or it ends without success. -/
def runFailure (tool : Tool) (args : List String) : Except OsError Finished → Option BuildError
  | .error error => some (.toolSpawn tool.program error)
  | .ok finished =>
      if finished.status.isSuccess then none
      else some (.toolFailed tool.program args finished.status (Text.lossyText finished.stdout)
        (Text.lossyText finished.stderr))

namespace BuildStep

/-- The steps up to the scratch directory. -/
def preparing : List BuildStep :=
  [.canonicalize, .read, .compile, .find .backend, .find .linker, .makeScratch]

/-- The steps in the scratch directory. -/
def assembling : List BuildStep :=
  [.write, .run .backend, .run .linker]

def all : List BuildStep :=
  preparing ++ assembling

/-- What is said in a step, and the error if it fails. -/
def Took (request : Request) (findings : Findings) (step : BuildStep) (said : List Said)
    (failure : Option BuildError) : Prop :=
  match step with
  | .canonicalize =>
      ∃ answer, said = [⟨.canonical request.directory, answer⟩] ∧
        Gives (.io request.directory) findings.directory answer failure
  | .read =>
      ∃ answer, said = [⟨.readText findings.sourcePath, answer⟩] ∧
        Gives (.io findings.sourcePath) findings.text answer failure
  | .compile =>
      said = [] ∧
        Gives .compile findings.code (StraightLine.compile request.options findings.text).outcome
          failure
  | .find role =>
      ∃ found : Option Tool, Finds role (request.overrides.choice role) said found ∧
        Gives .toolNotFound (findings.tools.tool role)
          (found.elim (.error role) .ok) failure
  | .makeScratch =>
      ∃ parent answer, said = [⟨.scratchParent, parent⟩, ⟨.makeScratch, answer⟩] ∧
        Gives (.io parent) findings.scratch answer failure
  | .write =>
      ∃ answer, said = [⟨.writeText findings.codePath findings.code, answer⟩] ∧
        Gives (.io findings.codePath) () answer failure
  | .run role =>
      ∃ answer, said = [⟨findings.running request role, answer⟩] ∧
        failure = runFailure (findings.tools.tool role) (findings.args request role) answer

end BuildStep

/-- A course of steps: each is taken if the one before it succeeded, and the first failure is the
failure of the whole. -/
inductive Course (took : BuildStep → List Said → Option BuildError → Prop) :
    List BuildStep → List Said → Option BuildError → Prop
  | done : Course took [] [] none
  | stop {step : BuildStep} {rest : List BuildStep} {said : List Said} {error : BuildError}
      (hstep : took step said (some error)) : Course took (step :: rest) said (some error)
  | next {step : BuildStep} {rest : List BuildStep} {said more : List Said}
      {failure : Option BuildError} (hstep : took step said none)
      (hrest : Course took rest more failure) : Course took (step :: rest) (said ++ more) failure

/-- What is asked for after the last step: a scratch directory that was made is removed, unless the
build succeeded and was to keep it. -/
inductive Cleanup (request : Request) (scratch : String) (taken : List Said) :
    Option BuildError → List Said → Prop
  | unmade (error : BuildError) (hmade : ∀ path, ⟨.makeScratch, .ok path⟩ ∉ taken) :
      Cleanup request scratch taken (some error) []
  | failed (error : BuildError) (hmade : ⟨.makeScratch, .ok scratch⟩ ∈ taken) :
      Cleanup request scratch taken (some error) [⟨.removeScratch scratch, ()⟩]
  | kept (hmade : ⟨.makeScratch, .ok scratch⟩ ∈ taken) (hkeep : request.keepScratch = true) :
      Cleanup request scratch taken none []
  | dropped (hmade : ⟨.makeScratch, .ok scratch⟩ ∈ taken) (hkeep : request.keepScratch = false) :
      Cleanup request scratch taken none [⟨.removeScratch scratch, ()⟩]

end StraightLine
