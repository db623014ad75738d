import StraightLine.Bound.Code
import StraightLine.Bound.Fold
import StraightLine.Source.Bind
import StraightLine.Source.Parse
import StraightLine.Token.Scan
import StraightLine.Traced

/-! From program text to code text: tokens, program, bound program, folded program, code. Every
stage reports what it made. -/

namespace StraightLine

structure Options where
  fold : Bool := true
  deriving DecidableEq, Repr

/-- Why a text is not compiled: it is no program, the program has faults, or folding fails. -/
inductive CompileError where
  | unreadable (error : SyntaxError)
  | rejected (diagnostics : List Diagnostic)
  | unfoldable (error : Bound.FoldError)
  deriving DecidableEq, Repr

def CompileError.message : CompileError → String
  | .unreadable error => error.message
  | .rejected diagnostics =>
      "compilation failed with " ++ toString (diagnostics.countP Diagnostic.isError) ++ " error(s)"
  | .unfoldable error => error.message

/-- The bound program of a text, with its faults as messages. -/
def analyze (text : String) : Traced SyntaxError Bound.Program := do
  let tokens ← Traced.silent (scan text)
  Traced.report [.scanned tokens.length]
  let program ← Traced.silent (Source.parse tokens)
  Traced.report [.parsed program.length]
  let bound := Source.bind program
  Traced.report [.bound bound.names.length bound.diagnostics.length]
  return bound

def foldIf (options : Options) (program : Bound.Program) : Traced CompileError Bound.Program := do
  if options.fold then
    let folded ← (Traced.silent program.fold).mapError .unfoldable
    Traced.report [.folded folded.program.stmts.length folded.known.size]
    return folded.program
  else
    Traced.report [.foldingOff]
    return program

def writeCode (program : Bound.Program) : Traced CompileError String := do
  Traced.report (program.names.mapIdx Event.slot)
  let text := program.code.render
  Traced.report [.coded program.temps text.utf8ByteSize]
  return text

/-- The code text of a bound program. Errors forbid it; other messages are reported as warnings. -/
def compileBound (options : Options) (program : Bound.Program) : Traced CompileError String := do
  if program.hasErrors then throw (.rejected program.diagnostics)
  Traced.report (program.diagnostics.map fun diagnostic => .warning diagnostic.message)
  writeCode (← foldIf options program)

def compile (options : Options) (text : String) : Traced CompileError String := do
  compileBound options (← (analyze text).mapError .unreadable)

end StraightLine
