import StraightLine.Host

/-! A machine that keeps a record. Every request that is made of it goes to the machine it is built
on, and is written down with the answer, so that a run can be judged by what it asked for and what it
was told. -/

namespace StraightLine

inductive Ask where
  | report (event : Event)
  | getEnv (name : String)
  | findProgram (name : String)
  | canonical (path : String)
  | readText (path : String)
  | writeText (path text : String)
  | scratchParent
  | makeScratch
  | removeScratch (path : String)
  | runProgram (program : String) (args : List String) (directory : String)
  deriving DecidableEq, Repr

namespace Ask

def Answer : Ask → Type
  | .report _ => Unit
  | .getEnv _ => Option String
  | .findProgram _ => Option String
  | .canonical _ => Except OsError String
  | .readText _ => Except OsError String
  | .writeText _ _ => Except OsError Unit
  | .scratchParent => String
  | .makeScratch => Except OsError String
  | .removeScratch _ => Unit
  | .runProgram _ _ _ => Except OsError Finished

def put {m : Type → Type} [Host m] : (ask : Ask) → m ask.Answer
  | .report event => Host.report event
  | .getEnv name => Host.getEnv name
  | .findProgram name => Host.findProgram name
  | .canonical path => Host.canonical path
  | .readText path => Host.readText path
  | .writeText path text => Host.writeText path text
  | .scratchParent => Host.scratchParent
  | .makeScratch => Host.makeScratch
  | .removeScratch path => Host.removeScratch path
  | .runProgram program args directory => Host.runProgram program args directory

/-- Whether nothing is asked for, only something told. -/
def isReport : Ask → Bool
  | .report _ => true
  | _ => false

end Ask

/-- A request with its answer. -/
abbrev Said := (ask : Ask) × ask.Answer

/-- A request, the state of the machine when it was made, and the answer. -/
structure Exchange (σ : Type) where
  before : σ
  ask : Ask
  answer : ask.Answer

def Exchange.said {σ : Type} (exchange : Exchange σ) : Said :=
  ⟨exchange.ask, exchange.answer⟩

/-- What was said in some exchanges, reports left out. -/
def asked {σ : Type} (log : List (Exchange σ)) : List Said :=
  (log.map Exchange.said).filter fun said => !said.1.isReport

/-- Work on a machine with states `σ`, and the exchanges so far. -/
abbrev Recorded (σ : Type) := StateT (List (Exchange σ)) (StateM σ)

variable {σ : Type} [Host (StateM σ)]

/-- The answer of a machine in a state, and its state afterwards. -/
def Ask.reply (ask : Ask) (state : σ) : ask.Answer × σ :=
  (ask.put (m := StateM σ)).run state

/-- Makes a request and writes it down. -/
def Ask.record (ask : Ask) : Recorded σ ask.Answer :=
  fun log state =>
    let (answer, after) := ask.reply state
    ((answer, log ++ [⟨state, ask, answer⟩]), after)

instance : Host (Recorded σ) where
  report event := (Ask.report event).record
  getEnv name := (Ask.getEnv name).record
  findProgram name := (Ask.findProgram name).record
  canonical path := (Ask.canonical path).record
  readText path := (Ask.readText path).record
  writeText path text := (Ask.writeText path text).record
  scratchParent := Ask.scratchParent.record
  makeScratch := Ask.makeScratch.record
  removeScratch path := (Ask.removeScratch path).record
  runProgram program args directory := (Ask.runProgram program args directory).record

end StraightLine
