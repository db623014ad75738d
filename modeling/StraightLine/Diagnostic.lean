/-! Messages about a program, each marked as an error or a warning. -/

namespace StraightLine

/-- Whether a message forbids code for the program. -/
inductive Severity where
  | error
  | warning
  deriving DecidableEq, Repr

def Severity.label : Severity → String
  | .error => "error"
  | .warning => "warning"

structure Diagnostic where
  severity : Severity
  message : String
  deriving DecidableEq, Repr

/-- A message on one line, its severity first. -/
def Diagnostic.render (diagnostic : Diagnostic) : String :=
  diagnostic.severity.label ++ ": " ++ diagnostic.message

def Diagnostic.isError (diagnostic : Diagnostic) : Bool :=
  diagnostic.severity == .error

end StraightLine
