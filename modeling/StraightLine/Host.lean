import StraightLine.Event
import StraightLine.Host.OsError
import StraightLine.Host.Process

/-! What a build asks of the machine it runs on. The build itself is written against these requests
alone, so it does the same on a real machine and on any model of one. -/

namespace StraightLine

/-! Paths are names separated by slashes, from the root if a slash comes first. -/

namespace Path

def isAbsolute (path : String) : Bool :=
  path.startsWith "/"

/-- A path taken relative to another. An absolute path stands for itself, and nothing is shortened.
-/
def join (base path : String) : String :=
  if isAbsolute path then path
  else if base.isEmpty || base.endsWith "/" then base ++ path
  else base ++ "/" ++ path

/-- The names in a path, with an empty one wherever a slash has no name before or after it. -/
def names (path : String) : List String :=
  path.splitOn "/"

end Path

/-- A machine with files, environment variables and programs. Every request may be refused. -/
class Host (m : Type → Type) where
  /-- Reports an event. -/
  report : Event → m Unit
  /-- The value of an environment variable. -/
  getEnv : String → m (Option String)
  /-- The path of an executable file of this name in the directories where programs are kept. -/
  findProgram : String → m (Option String)
  /-- The absolute path of an existing file or directory. -/
  canonical : String → m (Except OsError String)
  /-- The text of a file. -/
  readText : String → m (Except OsError String)
  /-- Makes a file that holds a text. -/
  writeText : String → String → m (Except OsError Unit)
  /-- The directory in which scratch directories are made. -/
  scratchParent : m String
  /-- Makes a fresh scratch directory. -/
  makeScratch : m (Except OsError String)
  /-- Removes a scratch directory with all it holds. -/
  removeScratch : String → m Unit
  /-- Runs a program on arguments in a working directory, to its end. -/
  runProgram : (program : String) → (args : List String) → (directory : String) →
    m (Except OsError Finished)

end StraightLine
