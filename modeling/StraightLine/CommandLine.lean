import StraightLine.Build

/-! The words of a command line: which command is asked for, on what, with which options. Options
stand in any order, short ones may be written together, and a value follows its option as the next
word, after `=`, or, for a short option, directly. -/

namespace StraightLine

inductive Command where
  | build (directory : Option String) (output : String) (keepScratch : Bool)
      (overrides : Overrides) (options : Options)
  | emit (file : String) (options : Options)
  | check (file : String)
  deriving DecidableEq, Repr

/-- A command, and how often more reports were asked for. -/
structure Invocation where
  verbose : Nat
  command : Command
  deriving DecidableEq, Repr

/-- Why no command is run: help or the version is asked for, or the words make no command. -/
inductive NoCommand where
  | help
  | version
  | misuse
  deriving DecidableEq, Repr

inductive Flag where
  | verbose
  | help
  | version
  | directory
  | output
  | keepScratch
  | backend
  | linker
  | noFold
  deriving DecidableEq, Repr

/-- How an option is written. -/
structure FlagSpec where
  flag : Flag
  short : Option Char
  long : String
  takesValue : Bool
  deriving DecidableEq, Repr

namespace CommandLine

def sharedFlags : List FlagSpec :=
  [⟨.verbose, some 'v', "verbose", false⟩, ⟨.help, some 'h', "help", false⟩]

/-- The options before a command. -/
def leadingFlags : List FlagSpec :=
  ⟨.version, some 'V', "version", false⟩ :: sharedFlags

/-- The option to leave constants unfolded. -/
def noFoldFlag : FlagSpec :=
  ⟨.noFold, none, "no-optimize", false⟩

def buildFlags : List FlagSpec :=
  [⟨.directory, some 'd', "directory", true⟩, ⟨.output, some 'o', "output", true⟩,
    ⟨.keepScratch, none, "keep-temps", false⟩, ⟨.backend, none, "qbe", true⟩,
    ⟨.linker, none, "cc", true⟩, noFoldFlag] ++ sharedFlags

/-- What has been given so far. -/
structure Given where
  verbose : Nat := 0
  switches : List Flag := []
  values : List (Flag × String) := []
  operands : List String := []
  deriving DecidableEq, Repr

/-- Takes an option without value. Only the one for more reports may be repeated. -/
def Given.switch (given : Given) (flag : Flag) : Except NoCommand Given :=
  match flag with
  | .verbose => .ok { given with verbose := given.verbose + 1 }
  | .help => .error .help
  | .version => .error .version
  | flag =>
      if flag ∈ given.switches then .error .misuse
      else .ok { given with switches := flag :: given.switches }

/-- Takes an option with its value, which is not empty. -/
def Given.value (given : Given) (flag : Flag) (text : String) : Except NoCommand Given :=
  if text.isEmpty || (given.values.lookup flag).isSome then .error .misuse
  else .ok { given with values := (flag, text) :: given.values }

/-- Takes an operand, if there is room for one and it is not empty. -/
def Given.operand (room : Nat) (given : Given) (text : String) : Except NoCommand Given :=
  if text.isEmpty || room ≤ given.operands.length then .error .misuse
  else .ok { given with operands := given.operands ++ [text] }

/-- Takes short options written together. The option that still needs a value comes back. -/
def readCluster (flags : List FlagSpec) (given : Given) :
    List Char → Except NoCommand (Given × Option Flag)
  | [] => .ok (given, none)
  | c :: rest =>
      match flags.find? (·.short == some c) with
      | none => .error .misuse
      | some spec =>
          if spec.takesValue then
            match rest with
            | [] => .ok (given, some spec.flag)
            | '=' :: text => do return (← given.value spec.flag (String.ofList text), none)
            | text => do return (← given.value spec.flag (String.ofList text), none)
          else
            match given.switch spec.flag with
            | .ok given => readCluster flags given rest
            | .error reason => .error reason

/-- Takes a long option, written without its dashes. The option that still needs a value comes
back. -/
def readLong (flags : List FlagSpec) (given : Given) (word : List Char) :
    Except NoCommand (Given × Option Flag) :=
  let name := String.ofList (word.takeWhile (· ≠ '='))
  match flags.find? (·.long == name), word.dropWhile (· ≠ '=') with
  | none, _ => .error .misuse
  | some spec, [] =>
      if spec.takesValue then .ok (given, some spec.flag)
      else do return (← given.switch spec.flag, none)
  | some spec, _ :: text =>
      if spec.takesValue then do return (← given.value spec.flag (String.ofList text), none)
      else .error .misuse

/-- A word of the command line: the end of options, a long option without its dashes, short options
without their dash, or anything else. A single dash is no option. -/
inductive Shape where
  | endOfOptions
  | long (word : List Char)
  | cluster (chars : List Char)
  | other (text : String)
  deriving DecidableEq, Repr

def shape (word : String) : Shape :=
  match word.toList with
  | ['-', '-'] => .endOfOptions
  | '-' :: '-' :: rest => .long rest
  | '-' :: c :: rest => .cluster (c :: rest)
  | _ => .other word

/-- Takes the words after a command. An option that needs a value takes the next word, which may not
look like an option. -/
def readWords (flags : List FlagSpec) (room : Nat) (given : Given) (waiting : Option Flag) :
    List String → Except NoCommand Given
  | [] => if waiting.isSome then .error .misuse else .ok given
  | word :: rest =>
      match shape word, waiting with
      | .other text, some flag => do
          readWords flags room (← given.value flag text) none rest
      | .other text, none => do
          readWords flags room (← given.operand room text) none rest
      | _, some _ => .error .misuse
      | .endOfOptions, none => rest.foldlM (Given.operand room) given
      | .long word, none => do
          let (given, waiting) ← readLong flags given word
          readWords flags room given waiting rest
      | .cluster chars, none => do
          let (given, waiting) ← readCluster flags given chars
          readWords flags room given waiting rest

def Given.options (given : Given) : Options :=
  { fold := Flag.noFold ∉ given.switches }

/-- The commands by name, each with what its words mean. -/
def command? (name : String) (words : List String) : Except NoCommand (Nat × Command) :=
  match name with
  | "build" => do
      let given ← readWords buildFlags 0 {} none words
      let some output := given.values.lookup .output | throw .misuse
      return (given.verbose,
        .build (given.values.lookup .directory) output (Flag.keepScratch ∈ given.switches)
          ⟨given.values.lookup .backend, given.values.lookup .linker⟩ given.options)
  | "emit-ir" => do
      let given ← readWords (noFoldFlag :: sharedFlags) 1 {} none words
      let [file] := given.operands | throw .misuse
      return (given.verbose, .emit file given.options)
  | "check" => do
      let given ← readWords sharedFlags 1 {} none words
      let [file] := given.operands | throw .misuse
      return (given.verbose, .check file)
  | "help" =>
      match words with
      | [] | ["build"] | ["emit-ir"] | ["check"] | ["help"] => .error .help
      | _ => .error .misuse
  | _ => .error .misuse

/-- Takes the words of a command line. If the command's own words ask for more reports, what was
asked for before the command does not count. -/
def readLeading (given : Given) : List String → Except NoCommand Invocation
  | [] => .error .misuse
  | word :: rest =>
      match shape word with
      | .other name => do
          let (verbose, command) ← command? name rest
          return ⟨if verbose = 0 then given.verbose else verbose, command⟩
      | .endOfOptions => .error .misuse
      | .long word => do
          let (given, _) ← readLong leadingFlags given word
          readLeading given rest
      | .cluster chars => do
          let (given, _) ← readCluster leadingFlags given chars
          readLeading given rest

/-- The meaning of a command line without the name of the program itself. -/
def read (words : List String) : Except NoCommand Invocation :=
  readLeading {} words

end CommandLine

end StraightLine
