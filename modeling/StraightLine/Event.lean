import StraightLine.Code
import StraightLine.Text.Quoted

/-! What the stages of a compilation and of a build report while they run, and which reports a
reader asked for. -/

namespace StraightLine

/-- How much a report matters. -/
inductive Level where
  | warn
  | info
  | debug
  deriving DecidableEq, Repr

def Level.label : Level → String
  | .warn => "WARN"
  | .info => "INFO"
  | .debug => "DEBUG"

/-- Which reports are shown: none, or those that matter at least so much. No report matters as much
as an error. -/
inductive Verbosity where
  | off
  | error
  | warn
  | info
  | debug
  | trace
  deriving DecidableEq, Repr

def Verbosity.shows : Verbosity → Level → Bool
  | .off, _ => false
  | .error, _ => false
  | .warn, level => level == .warn
  | .info, level => level == .warn || level == .info
  | .debug, _ => true
  | .trace, _ => true

/-- The reports, in the order in which a successful build makes them. -/
inductive Event where
  | compiling (source : String)
  | scanned (tokens : Nat)
  | parsed (statements : Nat)
  | bound (names diagnostics : Nat)
  | warning (message : String)
  | foldingOff
  | folded (statements constants : Nat)
  | slot (index : Nat) (name : String)
  | coded (temporaries bytes : Nat)
  | wrote (path : String) (bytes : Nat)
  | running (program origin : String)
  | built (executable : String)
  deriving DecidableEq, Repr

def Event.level : Event → Level
  | .warning _ => .warn
  | .compiling _ | .running _ _ | .built _ => .info
  | _ => .debug

/-- The part of the program that makes a report. -/
def Event.origin : Event → String
  | .scanned _ => "ctc::lexer"
  | .parsed _ => "ctc::parser"
  | .bound _ _ => "ctc::binder"
  | .folded _ _ => "ctc::optimizer"
  | .warning _ | .foldingOff => "ctc::pipeline"
  | .slot _ _ | .coded _ _ => "ctc::lower"
  | .compiling _ | .wrote _ _ | .running _ _ | .built _ => "ctc::driver"

/-- What a report says apart from its fields. -/
def Event.headline : Event → String
  | .compiling _ => "compiling"
  | .scanned _ => "lexed source"
  | .parsed _ => "parsed program"
  | .bound _ _ => "bound program"
  | .warning _ => "compiler warning"
  | .foldingOff => "constant folding disabled"
  | .folded _ _ => "folded constants"
  | .slot _ _ => "stack slot"
  | .coded _ _ => "lowered program"
  | .wrote _ _ => "wrote IR"
  | .running _ _ => "running external tool"
  | .built _ => "build finished"

/-- The fields of a report by name, each with its value as it is shown. -/
def Event.fields : Event → List (String × String)
  | .compiling source => [("source", source)]
  | .scanned tokens => [("tokens", toString tokens)]
  | .parsed statements => [("statements", toString statements)]
  | .bound names diagnostics =>
      [("variables", toString names), ("diagnostics", toString diagnostics)]
  | .warning message => [("message", Text.terminalSafe message)]
  | .foldingOff => []
  | .folded statements constants =>
      [("statements", toString statements), ("known_constants", toString constants)]
  | .slot index name => [("slot", slotName index), ("name", "Some(" ++ Text.quoted name ++ ")")]
  | .coded temporaries bytes =>
      [("temporaries", toString temporaries), ("bytes", toString bytes)]
  | .wrote path bytes => [("path", path), ("bytes", toString bytes)]
  | .running program origin => [("program", program), ("resolved_from", origin)]
  | .built executable => [("executable", executable)]

/-- A field as it is shown. A message stands without its name. -/
def fieldText : String × String → String
  | ("message", value) => value
  | (name, value) => name ++ "=" ++ value

def Event.text (event : Event) : String :=
  " ".intercalate (event.headline :: event.fields.map fieldText)

def Event.render (event : Event) : String :=
  event.level.label ++ " " ++ event.text

namespace Text

/-- A line by its characters, last one first, without a carriage return at its end. -/
def endedLine : List Char → String
  | '\r' :: line => String.ofList line.reverse
  | line => String.ofList line.reverse

/-- The lines of characters that come after `line`, whose characters stand last one first. -/
def linesFrom (line : List Char) : List Char → List String
  | [] => if line.isEmpty then [] else [String.ofList line.reverse]
  | '\n' :: rest => endedLine line :: linesFrom [] rest
  | c :: rest => linesFrom (c :: line) rest

/-- The lines of a text. A newline ends a line, alone or after a carriage return, and a last line
need not be ended. -/
def lines (text : String) : List String :=
  linesFrom [] text.toList

end Text

/-- What a reader of this verbosity sees: the reports one after another, each ended by a newline. -/
def Verbosity.text (verbosity : Verbosity) (events : List Event) : String :=
  String.join ((events.filter fun event => verbosity.shows event.level).map (·.render ++ "\n"))

/-- The lines that a reader of this verbosity sees. A report that holds newlines takes several. -/
def Verbosity.lines (verbosity : Verbosity) (events : List Event) : List String :=
  Text.lines (verbosity.text events)

end StraightLine
