import StraightLine.Sandbox.Expression
import StraightLine.Sandbox.Printf
import StraightLine.Sandbox.Utility.Files

/-! The programs that read and write text, mostly line by line. -/

namespace StraightLine.Sandbox

/-- The lines of a text of octets, each with the newline that ends it. -/
def wholeLines (text : String) : List String :=
  let parts := text.splitOn "\n"
  let ended := parts.dropLast.map (· ++ "\n")
  match parts.getLast? with
  | some "" => ended
  | some last => ended ++ [last]
  | none => ended

/-- The lines of a text of octets without their newlines. -/
def bareLines (text : String) : List String :=
  (wholeLines text).map fun line => (line.dropSuffix "\n").copy

namespace Setting

/-- What is read from a path, where a dash stands for what the program is given to read. -/
def source (setting : Setting) (path : String) : Except OsError String :=
  if path = "-" then setting.input else setting.read path

/-- Whether any path stands for what the program is given to read. -/
def asksInput (paths : List String) : Bool :=
  paths.isEmpty || paths.contains "-"

/-- The paths that a program reads, a dash if none is named. -/
def sources (paths : List String) : List String :=
  if paths.isEmpty then ["-"] else paths

/-- Reads paths one after another and does something with each. -/
def forEachSource (setting : Setting) (paths : List String)
    (failed : String → OsError → Effect) (use : String → String → Effect) : Effect :=
  let effect := setting.forEach (sources paths) fun setting path =>
    match setting.source path with
    | .ok text => { use path text with tree := setting.tree }
    | .error error => failed path error
  { effect with readsInput := asksInput paths }

def unreadable (setting : Setting) (path : String) (error : OsError) : Effect :=
  setting.refuse (shownName path ++ ": " ++ reasonOf error)

def column (width : Nat) (n : Nat) : String :=
  let digits := toString n
  String.ofList (List.replicate (width - digits.length) ' ') ++ digits

/-- A character as it is shown where all can be seen. -/
def visibleChar (tabs marks : Bool) (c : Char) : List Char :=
  let n := c.toNat
  let low := fun (n : Nat) =>
    if n < 32 then ['^', Char.ofNat (n + 64)] else if n = 127 then ['^', '?'] else [Char.ofNat n]
  if c = '\n' then ['\n']
  else if c = '\t' then if tabs then ['^', 'I'] else ['\t']
  else if !marks then [c]
  else if n < 128 then low n
  else 'M' :: '-' :: low (n - 128)

/-- Writes out files one after another. Options number lines and show what cannot be seen. -/
def cat (setting : Setting) (words : List String) : Effect :=
  let table : OptionTable := { flags := "nuAbeEsTtv".toList, named := [("--number", 'n')] }
  setting.withArguments table words fun arguments =>
    let effect := setting.forEachSource arguments.operands setting.unreadable fun _ text =>
      setting.leave 0 text ""
    let effect :=
      if effect.readsInput ∧ !setting.input.toBool then
        match setting.input with
        | .error .badDescriptor =>
            { effect with
              err := effect.err
                ++ setting.complaint "closing standard input: Bad file descriptor" }
        | _ => effect
      else effect
    let any := fun (letters : String) => letters.toList.any arguments.has
    let shown := (wholeLines effect.out).map fun line =>
      let text := line.toList.flatMap (visibleChar (any "TtA") (any "vetA"))
      let text := if any "EeA" then text.flatMap fun c => if c = '\n' then ['$', '\n'] else [c]
        else text
      String.ofList text
    let numbered := shown.zipIdx.map fun (line, i) =>
      if arguments.has 'n' then column 6 (i + 1) ++ "\t" ++ line else line
    { effect with out := String.join numbered }

/-- A count of lines or octets in an option. -/
def countOption? (text : String) : Option (Bool × Nat) :=
  match text.toList with
  | '-' :: digits => (decimal? (String.ofList digits)).map fun n => (true, n.toNat)
  | _ => (decimal? text).map fun n => (false, n.toNat)

/-- Words with an old form of a count written in the new one. -/
def modernCount (words : List String) : List String :=
  match words with
  | word :: rest =>
      match word.toList with
      | '-' :: c :: digits =>
          if c.isDigit ∧ digits.all Char.isDigit then
            "-n" :: String.ofList (c :: digits) :: rest
          else words
      | _ => words
  | [] => []

/-- Writes out a part of every file, under headings if there are several. -/
def excerpts (setting : Setting) (arguments : Arguments) (excerpt : String → String) : Effect :=
  let paths := sources arguments.operands
  let headed := (paths.length > 1 || arguments.has 'v') && !arguments.has 'q'
  let failed := fun (path : String) (error : OsError) =>
    if error = .isDirectory then
      setting.refuse ("error reading " ++ quotedName path ++ ": Is a directory")
    else
      setting.refuse
        ("cannot open " ++ quotedName path ++ " for reading: " ++ reasonOf error)
  let effect := setting.forEachSource arguments.operands failed fun path text =>
    let name := if path = "-" then "standard input" else path
    let heading := if headed then "==> " ++ name ++ " <==\n" else ""
    let first := paths.find? fun path =>
      match setting.source path with
      | .ok _ => true
      | .error error => error = .isDirectory
    let gap := if headed ∧ some path ≠ first then "\n" else ""
    setting.leave 0 (gap ++ heading ++ excerpt text) ""
  effect

def head (setting : Setting) (words : List String) : Effect :=
  let table : OptionTable :=
    { flags := "qv".toList, valued := "nc".toList
      named := [("--lines", 'n'), ("--bytes", 'c'), ("--quiet", 'q')] }
  setting.withArguments table (modernCount words) fun arguments =>
    match arguments.value? 'c', arguments.value? 'n' with
    | some text, _ =>
        match countOption? text with
        | none => setting.refuse ("invalid number of bytes: " ++ quotedName text)
        | some (fromEnd, n) =>
            setting.excerpts arguments fun text =>
              (text.take (if fromEnd then text.length - n else n)).copy
    | none, lines =>
        match countOption? (lines.getD "10") with
        | none => setting.refuse ("invalid number of lines: " ++ quotedName (lines.getD ""))
        | some (fromEnd, n) =>
            setting.excerpts arguments fun text =>
              let lines := wholeLines text
              String.join (lines.take (if fromEnd then lines.length - n else n))

def tail (setting : Setting) (words : List String) : Effect :=
  let table : OptionTable :=
    { flags := "qvf".toList, valued := "nc".toList
      named := [("--lines", 'n'), ("--bytes", 'c'), ("--quiet", 'q')] }
  setting.withArguments table (modernCount words) fun arguments =>
    let start? : String → Nat → Option Nat := fun text size =>
      match text.toList with
      | '+' :: digits => (decimal? (String.ofList digits)).map fun (n : Int) => n.toNat - 1
      | _ => (countOption? text).map fun (_, n) => size - n
    match arguments.value? 'c', arguments.value? 'n' with
    | some count, _ =>
        if (start? count 0).isNone then
          setting.refuse ("invalid number of bytes: " ++ quotedName count)
        else
          setting.excerpts arguments fun text =>
            (text.drop ((start? count text.length).getD 0)).copy
    | none, lines =>
        let count := lines.getD "10"
        if (start? count 0).isNone then
          setting.refuse ("invalid number of lines: " ++ quotedName count)
        else
          setting.excerpts arguments fun text =>
            let lines := wholeLines text
            String.join (lines.drop ((start? count lines.length).getD 0))

def wordCount (text : String) : Nat :=
  ((text.toList.splitOnP isSpaceChar).filter (!·.isEmpty)).length

def count (setting : Setting) (words : List String) : Effect :=
  let table : OptionTable :=
    { flags := "lwcm".toList
      named := [("--lines", 'l'), ("--words", 'w'), ("--bytes", 'c'), ("--chars", 'm')] }
  setting.withArguments table words fun arguments =>
    let all := arguments.options.isEmpty
    let numbers := fun (text : String) =>
      (if all || arguments.has 'l' then [(text.toList.filter (· == '\n')).length] else [])
        ++ (if all || arguments.has 'w' then [wordCount text] else [])
        ++ (if arguments.has 'm' then [text.length] else [])
        ++ (if all || arguments.has 'c' then [text.length] else [])
    let paths := sources arguments.operands
    let read := paths.map fun path => (path, setting.source path)
    let textOf := fun (result : Except OsError String) => result.toOption.getD ""
    let totals := numbers (String.join (read.map fun (_, result) => textOf result))
    let single := totals.length = 1 ∧ paths.length = 1
    let sizes := read.map fun (_, result) => (textOf result).length
    let width := if single then 1 else (toString (sizes.foldl (· + ·) 0)).length
    let odd := read.any fun (path, result) =>
      match result, setting.find path with
      | .error .isDirectory, _ => true
      | _, .ok (_, .sink) => true
      | _, _ => path = "-" && !setting.inputIsFile
    let width := if odd ∧ !single then max width 7 else width
    let row := fun (numbers : List Nat) (name : String) =>
      " ".intercalate (numbers.map (column width)) ++ (if name.isEmpty then "" else " " ++ name)
        ++ "\n"
    let effect := setting.forEach paths fun setting path =>
      match setting.source path with
      | .ok text => setting.leave 0 (row (numbers text) (if arguments.operands.isEmpty then ""
          else path)) ""
      | .error .isDirectory =>
          setting.leave 1 (row (numbers "") path)
            (setting.complaint (shownName path ++ ": Is a directory"))
      | .error error => setting.unreadable path error
    let total := if paths.length > 1 then row totals "total" else ""
    { effect with out := effect.out ++ total, readsInput := asksInput arguments.operands }

def sort (setting : Setting) (words : List String) : Effect :=
  let table : OptionTable :=
    { flags := "rnubfs".toList, valued := "kto".toList
      named := [("--reverse", 'r'), ("--unique", 'u'), ("--numeric-sort", 'n')] }
  match table.read none words with
  | .error reason => setting.leave 2 "" (setting.complaint reason ++ setting.advice)
  | .ok arguments =>
      let read := (sources arguments.operands).mapM fun path =>
        (setting.source path).mapError fun error => (path, error)
      match read with
      | .error (path, error) =>
          let what := if error = .isDirectory then "read failed: " else "cannot read: "
          setting.leave 2 "" (setting.complaint (what ++ shownName path ++ ": " ++ reasonOf error))
      | .ok texts =>
          let lines := texts.flatMap bareLines
          let key := fun (line : String) =>
            ((leadingNumber? (line.toList.dropWhile (· == ' '))).map (·.1)).getD 0
          let before := fun (left right : String) =>
            if arguments.has 'n' ∧ key left ≠ key right then key left < key right
            else left ≤ right
          let sorted := lines.mergeSort fun left right => before left right
          let sorted := if arguments.has 'u' then sorted.eraseReps else sorted
          let sorted := if arguments.has 'r' then sorted.reverse else sorted
          { setting.leave 0 (String.join (sorted.map (· ++ "\n"))) "" with
            readsInput := asksInput arguments.operands }

/-- Lines that follow each other and are alike, as one with their number. -/
def lineGroups : List String → List (Nat × String)
  | [] => []
  | line :: rest =>
      match lineGroups rest with
      | (n, next) :: groups =>
          if next = line then (n + 1, line) :: groups else (1, line) :: (n, next) :: groups
      | [] => [(1, line)]

/-- Leaves out lines that are like the ones before them. -/
def unique (setting : Setting) (words : List String) : Effect :=
  let table : OptionTable :=
    { flags := "cdu".toList, named := [("--count", 'c'), ("--repeated", 'd'), ("--unique", 'u')] }
  setting.withArguments table words fun arguments =>
    setting.forEachSource (arguments.operands.take 1) setting.unreadable fun _ text =>
      let groups := (lineGroups (bareLines text)).filter fun (n, _) =>
        (!arguments.has 'd' || n > 1) && (!arguments.has 'u' || n == 1)
      let shown := groups.map fun (n, line) =>
        (if arguments.has 'c' then column 7 n ++ " " else "") ++ line ++ "\n"
      setting.leave 0 (String.join shown) ""

/-- The octets from one to another. -/
def octetRange (low high : Char) : List Char :=
  (List.range (high.toNat + 1 - low.toNat)).map fun n => Char.ofNat (low.toNat + n)

/-- The octets that a set of them names, in order. -/
def octetSet (fuel : Nat) (chars : List Char) : List Char :=
  match fuel, chars with
  | 0, _ => []
  | _, [] => []
  | fuel + 1, '[' :: ':' :: rest =>
      match className? (rest.map fun c => ⟨c, false⟩) with
      | some (name, used) =>
          (octetRange '\x00' 'ÿ').filter (inClass name) ++ octetSet fuel (rest.drop used)
      | none => '[' :: octetSet fuel (':' :: rest)
  | fuel + 1, '\\' :: rest =>
      let (octet, used) := readEscape rest
      let (octet, used) := if used = 0 then (rest.headD '\\', 1) else (octet, used)
      octet :: octetSet fuel (rest.drop used)
  | fuel + 1, low :: '-' :: high :: rest => octetRange low high ++ octetSet fuel rest
  | fuel + 1, c :: rest => c :: octetSet fuel rest

/-- A text with every run of a character of a set made one. -/
def squeezed (set : List Char) : List Char → List Char
  | [] => []
  | [c] => [c]
  | c :: d :: rest =>
      if c = d ∧ c ∈ set then squeezed set (d :: rest) else c :: squeezed set (d :: rest)

/-- Replaces, deletes or squeezes characters. -/
def translate (setting : Setting) (words : List String) : Effect :=
  let table : OptionTable :=
    { flags := "cCdst".toList
      named := [("--delete", 'd'), ("--squeeze-repeats", 's'), ("--complement", 'c')] }
  setting.withArguments table words fun arguments =>
    let single := arguments.has 'd' || arguments.has 's'
    let setOf := fun (text : String) => octetSet (text.length + 1) text.toList
    let run := fun (change : List Char → List Char) =>
      { setting.leave 0 (String.ofList (change (setting.input.toOption.getD "").toList)) "" with
        readsInput := true }
    let first := fun (text : String) =>
      let set := setOf text
      if arguments.has 'c' || arguments.has 'C' then
        (octetRange '\x00' 'ÿ').filter (· ∉ set)
      else set
    match arguments.operands with
    | [] => setting.misuse "missing operand"
    | [one] =>
        if !single then
          setting.leave 1 "" (setting.complaint ("missing operand after " ++ quotedName one)
            ++ "Two strings must be given when translating.\n" ++ setting.advice)
        else if arguments.has 'd' then run fun text => text.filter (· ∉ first one)
        else run (squeezed (first one))
    | [one, two] =>
        let target := setOf two
        if target.isEmpty then
          setting.refuse "when not truncating set1, string2 must be non-empty"
        else
          let table := (first one).zipIdx.map fun (c, i) =>
            (c, (target[i]?).getD (target.getLastD c))
          let change := fun (text : List Char) => text.map fun c =>
            (table.reverse.lookup c).getD c
          run fun text => if arguments.has 's' then squeezed target (change text) else change text
    | _ :: _ :: third :: _ => setting.misuse ("extra operand " ++ quotedName third)

/-- The positions that a list of ranges names. -/
def inRanges (list : String) (position : Nat) : Bool :=
  (list.splitOn ",").any fun range =>
    match range.splitOn "-" with
    | [one] => decimal? one = some (position : Int)
    | [low, high] =>
        (low.isEmpty || (decimal? low).any (· ≤ (position : Int)))
          && (high.isEmpty || (decimal? high).any ((position : Int) ≤ ·))
    | _ => false

def cut (setting : Setting) (words : List String) : Effect :=
  let table : OptionTable := { flags := "sn".toList, valued := "bcdf".toList }
  setting.withArguments table words fun arguments =>
    let places := (arguments.value? 'c').orElse fun _ => arguments.value? 'b'
    match places, arguments.value? 'f' with
    | none, none =>
        setting.misuse "you must specify a list of bytes, characters, or fields"
    | some list, _ =>
        setting.forEachSource arguments.operands setting.unreadable fun _ text =>
          let lines := (bareLines text).map fun line =>
            let kept := line.toList.zipIdx.filter fun (_, i) => inRanges list (i + 1)
            String.ofList (kept.map (·.1)) ++ "\n"
          setting.leave 0 (String.join lines) ""
    | none, some list =>
        let delimiter := (arguments.value? 'd').getD "\t"
        setting.forEachSource arguments.operands setting.unreadable fun _ text =>
          let lines := (bareLines text).map fun line =>
            let fields := line.splitOn delimiter
            if fields.length = 1 then if arguments.has 's' then "" else line ++ "\n"
            else
              delimiter.intercalate
                ((fields.zipIdx.filter fun (_, i) => inRanges list (i + 1)).map (·.1)) ++ "\n"
          setting.leave 0 (String.join lines) ""

def tee (setting : Setting) (words : List String) : Effect :=
  let table : OptionTable := { flags := "aip".toList, named := [("--append", 'a')] }
  setting.withArguments table words fun arguments =>
    let text := setting.input.toOption.getD ""
    let effect := setting.forEach arguments.operands fun setting path =>
      match setting.tree.locateFile setting.directory (Text.ofOctets path) with
      | .error error => setting.unreadable path error
      | .ok place =>
          let before :=
            if arguments.has 'a' then ((setting.tree.get? place).map Entry.bytes).getD [] else []
          { tree := setting.tree.overwrite place (before ++ Text.bytesOfOctets text) false }
    { effect with out := text, readsInput := true }

def sequence (setting : Setting) (words : List String) : Effect :=
  let table : OptionTable := { flags := ['w'], valued := ['s'] }
  let isPlain := fun (word : String) => !(decimal? word).any (· < 0)
  let words := words.takeWhile isPlain ++
    (if words.all isPlain then [] else "--" :: words.dropWhile isPlain)
  setting.withArguments table words fun arguments =>
    match arguments.operands.find? fun word => (decimal? word).isNone with
    | some word =>
        setting.misuse ("invalid floating point argument: " ++ quotedName word)
    | none =>
        let numbers := arguments.operands.filterMap decimal?
        let steps := fun (first step last : Int) =>
          if step = 0 then ([] : List Int)
          else
            let size := if step > 0 then (last - first) / step else (first - last) / (-step)
            if size < 0 then []
            else (List.range (size.toNat + 1)).map fun (n : Nat) => first + step * (n : Int)
        let counted := fun (values : List Int) =>
          let texts := values.map fun n => toString n
          let width := if arguments.has 'w' then texts.foldl (fun w t => max w t.length) 0 else 0
          let texts := texts.map fun t =>
            String.ofList (List.replicate (width - t.length) '0') ++ t
          if texts.isEmpty then setting.leave 0 "" ""
          else
            setting.leave 0
              (((arguments.value? 's').getD "\n").intercalate texts ++ "\n") ""
        match numbers with
        | [] => setting.misuse "missing operand"
        | [last] => counted (steps 1 1 last)
        | [first, last] => counted (steps first 1 last)
        | [_, 0, _] =>
            setting.misuse ("invalid Zero increment value: "
              ++ quotedName (arguments.operands.getD 1 ""))
        | [first, step, last] => counted (steps first step last)
        | _ => setting.misuse ("extra operand " ++ quotedName (arguments.operands.getD 3 ""))

/-- The last names of paths, without a suffix where one is named. -/
def baseNames (setting : Setting) (words : List String) : Effect :=
  let table : OptionTable := { flags := "az".toList, valued := ['s'] }
  let stem := fun (path suffix : String) =>
    let name := baseName path
    if suffix.isEmpty ∨ name = suffix then name else (name.dropSuffix suffix).copy
  setting.withArguments table words fun arguments =>
    match arguments.operands with
    | [] => setting.misuse "missing operand"
    | operands =>
        let suffix := arguments.value? 's'
        if arguments.has 'a' ∨ suffix.isSome then
          setting.leave 0
            (String.join (operands.map fun path => stem path (suffix.getD "") ++ "\n")) ""
        else
          match operands with
          | _ :: _ :: extra :: _ =>
              setting.misuse ("extra operand " ++ quotedName extra)
          | [path, suffix] => setting.leave 0 (stem path suffix ++ "\n") ""
          | path :: _ => setting.leave 0 (stem path "" ++ "\n") ""
          | [] => setting.misuse "missing operand"

def directoryName (path : String) : String :=
  let trimmed := (path.dropEndWhile '/').copy
  let before := String.ofList (trimmed.toList.reverse.dropWhile (· ≠ '/')).reverse
  let parent := (before.dropEndWhile '/').copy
  if parent.isEmpty then if Path.isAbsolute path then "/" else "." else parent

def directoryNames (setting : Setting) (words : List String) : Effect :=
  setting.withArguments { flags := ['z'] } words fun arguments =>
    if arguments.operands.isEmpty then setting.misuse "missing operand"
    else
      setting.leave 0
        (String.join (arguments.operands.map fun path => directoryName path ++ "\n")) ""

def grep (setting : Setting) (words : List String) : Effect :=
  let table : OptionTable :=
    { flags := "cvqinlxFEGohHsLw".toList, valued := "em".toList
      named := [("--quiet", 'q'), ("--count", 'c'), ("--invert-match", 'v')] }
  match table.read none words with
  | .error reason =>
      setting.leave 2 "" (setting.complaint reason
        ++ "Usage: grep [OPTION]... PATTERNS [FILE]...\n"
        ++ "Try 'grep --help' for more information.\n")
  | .ok arguments =>
      let (expression, paths) :=
        match arguments.value? 'e', arguments.operands with
        | some text, paths => (some text, paths)
        | none, text :: paths => (some text, paths)
        | none, [] => (none, [])
      match expression with
      | none =>
          setting.leave 2 "" ("Usage: grep [OPTION]... PATTERNS [FILE]...\n"
            ++ "Try 'grep --help' for more information.\n")
      | some text =>
          let fold := fun (chars : List Char) =>
            if arguments.has 'i' then chars.map Char.toLower else chars
          let parts :=
            if arguments.has 'F' then
              (fold text.toList).map fun c => ExpressionPart.atom (.char c) 1 (some 1)
            else expressionParts (arguments.has 'E') (text.length + 1) true (fold text.toList)
          let parts := if arguments.has 'x' then .start :: parts ++ [.finish] else parts
          let found := fun (line : String) =>
            (expressionFind? parts (fold line.toList)).isSome != arguments.has 'v'
          let failed := fun (path : String) (error : OsError) =>
            setting.leave 2 "" (setting.complaint (path ++ ": " ++ reasonOf error))
          let named := (paths.length > 1 ∨ arguments.has 'H') ∧ !arguments.has 'h'
          let effect := setting.forEachSource paths failed fun path text =>
            let label := if named then path ++ ":" else ""
            let matching := (bareLines text).zipIdx.filter fun (line, _) => found line
            let status := if matching.isEmpty then 0 else 1
            let shown :=
              if arguments.has 'q' then ""
              else if arguments.has 'c' then label ++ toString matching.length ++ "\n"
              else if arguments.has 'l' then if matching.isEmpty then "" else path ++ "\n"
              else
                String.join (matching.map fun (line, i) =>
                  label ++ (if arguments.has 'n' then toString (i + 1) ++ ":" else "") ++ line
                    ++ "\n")
            setting.leave status shown ""
          { effect with status := if effect.status = 2 then 2 else 1 - effect.status }

/-- A text with escapes in hexadecimal written in octal, with `lead` before the digits. -/
def octalEscapes (lead : List Char) (fuel : Nat) (chars : List Char) : List Char :=
  match fuel, chars with
  | 0, chars => chars
  | _, [] => []
  | fuel + 1, '\\' :: 'x' :: rest =>
      let digits := (rest.take 2).takeWhile fun c => (digitValue? 16 c).isSome
      if digits.isEmpty then '\\' :: 'x' :: octalEscapes lead fuel rest
      else
        let n := digitsValue 16 digits
        let digit := fun k => Char.ofNat ('0'.toNat + k % 8)
        '\\' :: lead ++ [digit (n / 64), digit (n / 8), digit n]
          ++ octalEscapes lead fuel (rest.drop digits.length)
  | fuel + 1, '\\' :: c :: rest => '\\' :: c :: octalEscapes lead fuel rest
  | fuel + 1, c :: rest => c :: octalEscapes lead fuel rest

/-- Writes out arguments on one line. Options say whether to end it and whether backslashes mean
something. -/
def echo (setting : Setting) (words : List String) : Effect :=
  let isOption := fun (word : String) =>
    match word.toList with
    | '-' :: c :: letters => (c :: letters).all (· ∈ ['n', 'e', 'E'])
    | _ => false
  let options := (words.takeWhile isOption).flatMap (·.toList)
  let text := " ".intercalate (words.dropWhile isOption)
  let ending := if 'n' ∈ options then "" else "\n"
  let escapes := (options.filter (· ∈ ['e', 'E'])).getLast? = some 'e'
  if escapes then
    let (chars, stops) := unescape 0 (octalEscapes ['0'] text.length text.toList)
    setting.leave 0 (String.ofList chars ++ (if stops then "" else ending)) ""
  else setting.leave 0 (text ++ ending) ""

def print (setting : Setting) (words : List String) : Effect :=
  match words with
  | [] => setting.misuse "missing operand"
  | format :: words =>
      let format := String.ofList (octalEscapes [] format.length format.toList)
      let printing := printf format words
      let complain := fun (text : String) =>
        match text.splitOn ": " with
        | [word, "expected numeric value"] =>
            setting.complaint (quotedName word ++ ": expected a numeric value")
        | [word, "not completely converted"] =>
            setting.complaint (quotedName word ++ ": value not completely converted")
        | [directive, "invalid directive"] =>
            setting.complaint (directive ++ ": invalid conversion specification")
        | _ => setting.complaint text
      let complaints := printing.complaints ++ printing.fault.toList
      let excess :=
        if printing.words.length = words.length then
          (words.head?.map fun word =>
            setting.complaint ("warning: ignoring excess arguments, starting with "
              ++ quotedName word)).getD ""
        else ""
      setting.leave (if complaints.isEmpty then 0 else 1) printing.text
        (String.join (complaints.map complain) ++ excess)

def printDirectory (setting : Setting) (words : List String) : Effect :=
  setting.withArguments { flags := ['L', 'P'] } words fun arguments =>
    if setting.directory.isGone then
      setting.refuse "couldn't find directory entry in '..' with matching i-node"
    else setting.leave 0 (Text.octets setting.directory.path ++ "\n")
      (if arguments.operands.isEmpty then ""
        else setting.complaint "ignoring non-option arguments")

/-- Waits. Nothing here takes time, so only its arguments are looked at. -/
def sleep (setting : Setting) (words : List String) : Effect :=
  let isTime := fun (word : String) =>
    (fraction? (word.toList.filter (· ∉ ['s', 'm', 'h', 'd']))).isSome
  setting.withArguments {} words fun arguments =>
    match arguments.operands.find? (!isTime ·) with
    | some word => setting.misuse ("invalid time interval " ++ quotedName word)
    | none =>
        if arguments.operands.isEmpty then setting.misuse "missing operand"
        else setting.leave 0 "" ""

end Setting

end StraightLine.Sandbox
