import StraightLine.Event
import StraightLine.Text.Classes
import StraightLine.Text.Decimal

/-! Which reports are shown. A filter is a list of directives, separated by commas. Each says how much
is shown of the reports that come from one part of the program or that have some field:

    directive := LEVEL | target (= LEVEL?)?
    target    := ORIGIN | ORIGIN? [ SPAN? { FIELD } ] | ORIGIN? [ SPAN ]

The most specific directive that applies to a report decides. A filter with a directive that cannot be
read is no filter at all. -/

namespace StraightLine

/-- The levels of verbosity in order, each by its name and its place. -/
def Verbosity.levels : List (String × Verbosity) :=
  [("off", .off), ("error", .error), ("warn", .warn), ("info", .info), ("debug", .debug),
    ("trace", .trace)]

/-- The verbosity that a word stands for: the name of a level in letters of either case, or its
number. -/
def Verbosity.ofWord? (word : String) : Option Verbosity :=
  match Text.unsignedDecimal? word.toList with
  | some number => levels[number]?.map Prod.snd
  | none => levels.lookup word.toLower

/-- How much is shown of some reports: those whose origin begins as told, made inside a span, if one is
named, and with a field, if one is named. -/
structure Directive where
  origin : String := ""
  span : Option String := none
  field : Option String := none
  verbosity : Verbosity
  deriving DecidableEq, Repr

namespace Directive

/-- The verbosity at the end of a directive. Where there is none, all is shown. -/
def levelAtEnd? : List Char → Option Verbosity
  | [] | ['='] => some .trace
  | '=' :: word => Verbosity.ofWord? (String.ofList word)
  | _ => none

/-- Whether an origin can start with a character. -/
def startsOrigin (c : Char) : Bool :=
  Text.isAlphabetic c || Text.isNumeric c || c == '-' || c == ':' || c == '_'

/-- Reads a directive from behind its opening bracket. -/
def bracketed? (origin : String) (chars : List Char) : Option Directive :=
  let endsSpan := fun c => c == ']' || c == '\x7b'
  let span := String.ofList (chars.takeWhile (!endsSpan ·))
  match chars.dropWhile (!endsSpan ·) with
  | ']' :: rest => do return { origin, span, verbosity := ← levelAtEnd? rest }
  | '\x7b' :: rest =>
      let field := String.ofList (rest.takeWhile (· ≠ '\x7d'))
      match rest.dropWhile (· ≠ '\x7d') with
      | '\x7d' :: ']' :: rest => do
          guard (field ≠ "")
          let span := if span = "" then none else some span
          return { origin, span, field, verbosity := ← levelAtEnd? rest }
      | _ => none
  | _ => none

def ofText? (text : String) : Option Directive :=
  let endsOrigin := fun c => c == '=' || c == '['
  let origin := String.ofList (text.toList.takeWhile (!endsOrigin ·))
  if text.toList.head?.any startsOrigin then
    match text.toList.dropWhile (!endsOrigin ·) with
    | [] =>
        match Verbosity.ofWord? origin with
        | some verbosity => some { verbosity }
        | none => some { origin, verbosity := .trace }
    | '[' :: rest => bracketed? origin rest
    | rest => do return { origin, verbosity := ← levelAtEnd? rest }
  else
    match text.toList with
    | '[' :: rest => bracketed? "" rest
    | _ => none

/-- Whether a directive is about a report. Reports are made outside of all spans, and what they say is
a field too. -/
def applies (directive : Directive) (event : Event) : Bool :=
  directive.span.isNone && directive.origin.toList.isPrefixOf event.origin.toList &&
    directive.field.all fun field => field == "message" || (event.fields.lookup field).isSome

/-- Whether a directive is at least as specific as another: the longer origin decides, then the
field. -/
def outranks (directive other : Directive) : Bool :=
  if directive.origin.utf8ByteSize = other.origin.utf8ByteSize then
    !decide (directive.field.getD "" < other.field.getD "")
  else other.origin.utf8ByteSize < directive.origin.utf8ByteSize

end Directive

abbrev LogFilter := List Directive

namespace LogFilter

def ofText? (text : String) : Option LogFilter :=
  ((text.splitOn ",").filter (· ≠ "")).mapM Directive.ofText?

/-- The filter that treats all reports alike. -/
def ofVerbosity (verbosity : Verbosity) : LogFilter :=
  [{ verbosity }]

/-- The most specific directive about a report. Of those that are equally specific the last one
counts. -/
def decisive? (filter : LogFilter) (event : Event) : Option Directive :=
  (filter.filter (·.applies event)).foldl (fun best directive =>
    if best.all directive.outranks then some directive else best) none

def shows (filter : LogFilter) (event : Event) : Bool :=
  (filter.decisive? event).any fun directive => directive.verbosity.shows event.level

@[simp] theorem shows_ofVerbosity (verbosity : Verbosity) (event : Event) :
    (ofVerbosity verbosity).shows event = verbosity.shows event.level := rfl

end LogFilter

end StraightLine
