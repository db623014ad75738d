import StraightLine.Host
import StraightLine.Text.Classes

/-! The two programs a build runs after compiling, and how each is chosen: what the caller says,
else an environment variable that is not blank, else the program of the usual name. -/

namespace StraightLine

/-- What a program is run for: from code to assembly, or from assembly to an executable. -/
inductive Role where
  | backend
  | linker
  deriving DecidableEq, Repr

def Role.label : Role → String
  | .backend => "backend"
  | .linker => "linker"

def Role.envName : Role → String
  | .backend => "CTC_QBE"
  | .linker => "CTC_CC"

def Role.command : Role → String
  | .backend => "qbe"
  | .linker => "cc"

/-- What chose a program. -/
inductive Origin where
  | commandLine
  | environment (name : String)
  | pathLookup
  deriving DecidableEq, Repr

def Origin.describe : Origin → String
  | .commandLine => "command-line override"
  | .environment name => name ++ " environment variable"
  | .pathLookup => "PATH lookup"

structure Tool where
  program : String
  origin : Origin
  deriving DecidableEq, Repr

/-- The programs the caller chose. -/
structure Overrides where
  backend : Option String := none
  linker : Option String := none
  deriving DecidableEq, Repr

/-- Both programs. -/
structure Toolchain where
  backend : Tool
  linker : Tool
  deriving DecidableEq, Repr

def notFoundReason : String :=
  "cannot find binary path"

variable {m : Type → Type} [Monad m] [Host m]

/-- The program of the usual name, if the machine has it. -/
def Role.lookup (role : Role) : m (Option Tool) := do
  return (← Host.findProgram role.command).map (⟨·, .pathLookup⟩)

/-- The program for a role, if there is one. A variable counts unless it is blank, and its value is
taken as it is. -/
def Role.resolve (role : Role) (override : Option String) : m (Option Tool) := do
  match override with
  | some program => return some ⟨program, .commandLine⟩
  | none =>
      match ← Host.getEnv role.envName with
      | some value =>
          if Text.isBlankText value then role.lookup
          else return some ⟨value, .environment role.envName⟩
      | none => role.lookup

/-- Both programs, or the first role that has none. -/
def Overrides.resolve (overrides : Overrides) : ExceptT Role m Toolchain := do
  let some backend ← Role.backend.resolve (m := m) overrides.backend | throw .backend
  let some linker ← Role.linker.resolve (m := m) overrides.linker | throw .linker
  return ⟨backend, linker⟩

end StraightLine
