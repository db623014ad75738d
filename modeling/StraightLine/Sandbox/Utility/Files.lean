import StraightLine.Sandbox.Utility

/-! The programs that make, copy, move and remove files, and what they say when they cannot. -/

namespace StraightLine.Sandbox.Setting

/-- The reason that an error gives, without its number. -/
def reasonOf (error : OsError) : String :=
  error.reason.1

def copyFile (setting : Setting) (source target : String) : Effect :=
  let tree := setting.tree
  match setting.find source with
  | .error error =>
      setting.refuse ("cannot stat " ++ quotedName source ++ ": " ++ reasonOf error)
  | .ok (origin, entry) =>
      let create := fun (error : OsError) =>
        setting.refuse
          ("cannot create regular file " ++ quotedName target ++ ": " ++ reasonOf error)
      match setting.find target with
      | .ok (_, .directory) =>
          setting.refuse
            ("cannot overwrite directory " ++ quotedName target ++ " with non-directory")
      | .ok (place, _) =>
          if tree.same origin place then
            setting.refuse
              (quotedName source ++ " and " ++ quotedName target ++ " are the same file")
          else { tree := tree.overwrite place entry.bytes entry.isExecutable }
      | .error .notFound =>
          match setting.findSelf target with
          | .ok _ =>
              setting.refuse ("not writing through dangling symlink " ++ quotedName target)
          | .error _ =>
              match tree.locateFile setting.directory (Text.ofOctets target) with
              | .error .isDirectory => create .notDirectory
              | .error error => create error
              | .ok place => { tree := tree.overwrite place entry.bytes entry.isExecutable }
      | .error error =>
          setting.refuse ("cannot stat " ++ quotedName target ++ ": " ++ reasonOf error)

/-- The location of a directory that may be new. Slashes at the end of its path do not count. -/
def locateNew (setting : Setting) (path : String) : Except OsError Location :=
  let named := (path.dropEndWhile '/').copy
  setting.tree.locateAs false setting.directory
    (Text.ofOctets (if named.isEmpty then path else named))

/-- How the copying of something is told. -/
def arrow (source target : String) : String :=
  quotedName source ++ " -> " ++ quotedName target ++ "\n"

def copyLink (setting : Setting) (origin : Location) (aim source target : String) : Effect :=
  let tree := setting.tree
  match setting.findSelf target with
  | .ok (_, .directory) =>
      setting.refuse ("cannot overwrite directory " ++ quotedName target ++ " with non-directory")
  | .ok (place, _) =>
      if origin = place ∨ (setting.find source).toOption.any (·.1 = place) then
        setting.refuse (quotedName source ++ " and " ++ quotedName target ++ " are the same file")
      else { tree := (tree.erase place).insert place (.link aim) }
  | .error _ =>
      match tree.locateAs false setting.directory (Text.ofOctets target) with
      | .ok place => { tree := tree.insert place (.link aim) }
      | .error error =>
          setting.refuse
            ("cannot create symbolic link " ++ quotedName target ++ ": " ++ reasonOf error)

/-- A path followed by further names. -/
def beyond (path : String) (names : List String) : String :=
  names.foldl (fun path name => Path.join path (Text.octets name)) path

/-- Copies a directory with all it holds to a path where there is nothing or a directory. A copy
inside the directory itself does not hold itself. -/
def copyTree (setting : Setting) (tells : Bool) (source target : String) : Effect :=
  match setting.find source, setting.locateNew target with
  | .ok (origin, _), .ok place =>
      let inner := (setting.tree.below origin).filter fun (names, _) =>
        !place.isPrefixOf (origin ++ names)
      let out :=
        if tells then
          (if (setting.tree.get? place).isNone then arrow source target else "")
            ++ String.join (inner.map fun (names, _) =>
              arrow (beyond source names) (beyond target names))
        else ""
      let tree := inner.foldl (fun tree (names, entry) => tree.insert (place ++ names) entry)
        (setting.tree.insert place .directory)
      if origin = place then
        setting.refuse (quotedName source ++ " and " ++ quotedName target ++ " are the same file")
      else if (setting.tree.get? place).any (· ≠ .directory) then
        setting.refuse ("cannot overwrite non-directory " ++ quotedName target
          ++ " with directory " ++ quotedName source)
      else if origin.isPrefixOf place then
        { setting.refuse ("cannot copy a directory, " ++ quotedName source ++ ", into itself, "
            ++ quotedName target) with tree, out }
      else { tree, out }
  | .error error, _ =>
      setting.refuse ("cannot stat " ++ quotedName source ++ ": " ++ reasonOf error)
  | _, .error error =>
      setting.refuse ("cannot create directory " ++ quotedName target ++ ": " ++ reasonOf error)

/-- Does something for every source that is named, with the path that it is to get: the last
operand, or in a directory the source's own name there. The option `t` names such a directory. -/
def forTargets (setting : Setting) (arguments : Arguments)
    (use : Setting → String → String → Effect) : Effect :=
  let notDirectory := fun (kind target : String) =>
    let reason :=
      match setting.find target with
      | .ok _ => "Not a directory"
      | .error error => reasonOf error
    setting.refuse (kind ++ quotedName target ++ ": " ++ reason)
  let inside := fun (target : String) (setting : Setting) (source : String) =>
    use setting source (Path.join target (baseName source))
  match arguments.operands, arguments.value? 't' with
  | [], _ => setting.misuse "missing file operand"
  | sources, some target =>
      if setting.isDirectory target then setting.forEach sources (inside target)
      else notDirectory "target directory " target
  | [source], none =>
      setting.misuse ("missing destination file operand after " ++ quotedName source)
  | operands, none =>
      let target := operands.getLastD ""
      if setting.isDirectory target && !arguments.has 'T' then
        setting.forEach operands.dropLast (inside target)
      else if operands.length > 2 then notDirectory "target " target
      else setting.forEach operands.dropLast fun setting source => use setting source target

/-- Copies files; into a directory they keep their names. -/
def copy (setting : Setting) (words : List String) : Effect :=
  let table : OptionTable :=
    { flags := "afpRrvTdnuxHLPi".toList
      valued := ['t']
      named := [("--recursive", 'r'), ("--force", 'f'), ("--verbose", 'v'), ("--archive", 'a'),
        ("--no-clobber", 'n'), ("--target-directory", 't'), ("--no-target-directory", 'T')] }
  setting.withArguments table words fun arguments =>
    let deep := arguments.has 'r' || arguments.has 'R' || arguments.has 'a'
    let keepsLinks := arguments.has 'P' || arguments.has 'd' || arguments.has 'a'
      || deep && !arguments.has 'H' && !arguments.has 'L'
    let effect := setting.forTargets arguments fun setting source target =>
      let told := fun (effect : Effect) =>
        if arguments.has 'v' ∧ effect.status = 0 then
          { effect with out := arrow source target ++ effect.out }
        else effect
      match setting.findSelf source, keepsLinks with
      | .ok (origin, .link aim), true => told (setting.copyLink origin aim source target)
      | found, _ =>
          if setting.isDirectory source then
            if deep then setting.copyTree (arguments.has 'v') source target
            else setting.refuse ("-r not specified; omitting directory " ++ quotedName source)
          else if arguments.has 'n' ∧ found.isOk ∧ (setting.findSelf target).isOk then
            setting.leave 0 "" ""
          else told (setting.copyFile source target)
    if arguments.has 'n' then
      { effect with
        err := setting.complaint ("warning: behavior of -n is non-portable and may change in "
          ++ "future; use --update=none instead") ++ effect.err }
    else effect

def moveFile (setting : Setting) (source target : String) : Effect :=
  let tree := setting.tree
  match setting.findSelf source with
  | .error error =>
      setting.refuse ("cannot stat " ++ quotedName source ++ ": " ++ reasonOf error)
  | .ok (origin, entry) =>
      let cannot := fun (reason : String) =>
        setting.refuse ("cannot move " ++ quotedName source ++ " to " ++ quotedName target ++ ": "
          ++ reason)
      let located :=
        if entry = .directory then setting.locateNew target
        else tree.locateAs false setting.directory (Text.ofOctets target)
      match located with
      | .error .notFound =>
          cannot (if target.endsWith "/" ∧ entry ≠ .directory then "Not a directory"
            else "No such file or directory")
      | .error .notDirectory =>
          setting.refuse ("cannot stat " ++ quotedName target ++ ": Not a directory")
      | .error error => cannot (reasonOf error)
      | .ok place =>
          let aim :=
            match entry with
            | .link _ => (setting.find source).toOption.map (·.1)
            | _ => none
          if tree.same origin place ∨ aim = some place then
            setting.refuse
              (quotedName source ++ " and " ++ quotedName target ++ " are the same file")
          else if setting.entersLink source then cannot "Not a directory"
          else if origin.isPrefixOf place then
            setting.refuse ("cannot move " ++ quotedName source ++ " to a subdirectory of itself, "
              ++ quotedName target)
          else if tree.get? place = some .directory ∧ entry ≠ .directory then
            setting.refuse ("cannot overwrite directory " ++ quotedName target
              ++ " with non-directory")
          else if entry = .directory ∧ (tree.get? place).any (· ≠ .directory) then
            setting.refuse ("cannot overwrite non-directory " ++ quotedName target
              ++ " with directory " ++ quotedName source)
          else if entry = .directory ∧ !(tree.children place).isEmpty then
            cannot "Directory not empty"
          else { tree := tree.move origin place }

/-- Moves files; into a directory they keep their names. -/
def move (setting : Setting) (words : List String) : Effect :=
  let table : OptionTable :=
    { flags := "fvTniu".toList
      valued := ['t']
      named := [("--force", 'f'), ("--verbose", 'v'), ("--no-clobber", 'n'),
        ("--target-directory", 't'), ("--no-target-directory", 'T')] }
  setting.withArguments table words fun arguments =>
    setting.forTargets arguments fun setting source target =>
      if arguments.has 'n' ∧ (setting.findSelf source).isOk ∧ (setting.findSelf target).isOk then
        setting.refuse ("not replacing " ++ quotedName target)
      else
        let effect := setting.moveFile source target
        if arguments.has 'v' ∧ effect.status = 0 then
          { effect with out := "renamed " ++ arrow source target }
        else effect

def linkFile (setting : Setting) (arguments : Arguments) (source target : String) : Effect :=
  let tree := setting.tree
  let kind := if arguments.has 's' then "symbolic link" else "hard link"
  let cannot := fun (error : OsError) =>
    setting.refuse ("failed to create " ++ kind ++ " " ++ quotedName target
      ++ (if arguments.has 's' ∨ error = .alreadyExists then "" else " => " ++ quotedName source)
      ++ ": " ++ reasonOf error)
  let out :=
    if arguments.has 'v' then
      quotedName target ++ (if arguments.has 's' then " -> " else " => ") ++ quotedName source
        ++ "\n"
    else ""
  let put := fun (origin : Option Location) (fill : FileTree → Location → FileTree) =>
    match tree.locateAs false setting.directory (Text.ofOctets target) with
    | .error error => cannot error
    | .ok place =>
        match tree.get? place, arguments.has 'f' with
        | none, _ => ({ tree := fill tree place, out } : Effect)
        | some _, false => cannot .alreadyExists
        | some .directory, true =>
            setting.refuse (shownName target ++ ": cannot overwrite directory")
        | some _, true =>
            if origin = some place then
              setting.refuse
                (quotedName source ++ " and " ++ quotedName target ++ " are the same file")
            else { tree := fill (tree.erase place) place, out }
  if arguments.has 's' then
    put ((setting.find source).toOption.map (·.1)) (·.insert · (.link (Text.ofOctets source)))
  else
    let found := if arguments.has 'L' then setting.find source else setting.findSelf source
    match found with
    | .error error =>
        setting.refuse ("failed to access " ++ quotedName source ++ ": " ++ reasonOf error)
    | .ok (_, .directory) =>
        setting.refuse (shownName source ++ ": hard link not allowed for directory")
    | .ok (origin, entry) => put (some origin) (·.twin origin · entry)

/-- Makes links; in a directory they get the names of what they lead to. -/
def link (setting : Setting) (words : List String) : Effect :=
  let table : OptionTable :=
    { flags := "sfnvTriLP".toList, named := [("--symbolic", 's'), ("--force", 'f')] }
  setting.withArguments table words fun arguments =>
    match arguments.operands with
    | [] => setting.misuse "missing file operand"
    | [source] => setting.linkFile arguments source (Path.join "." (baseName source))
    | operands =>
        let target := operands.getLastD ""
        let isLink :=
          match setting.findSelf target with
          | .ok (_, .link _) => true
          | _ => false
        let into := setting.isDirectory target && !arguments.has 'T'
          && !(arguments.has 'n' && isLink)
        if operands.length > 2 ∧ !into then
          setting.refuse ("target " ++ quotedName target ++ ": No such file or directory")
        else
          setting.forEach operands.dropLast fun setting source =>
            setting.linkFile arguments source
              (if into then Path.join target (baseName source) else target)

def readLink (setting : Setting) (words : List String) : Effect :=
  let table : OptionTable := { flags := "fenqsvmz".toList }
  setting.withArguments table words fun arguments =>
    if arguments.operands.isEmpty then setting.misuse "missing operand"
    else
      let ending := if arguments.has 'n' then "" else "\n"
      setting.forEach arguments.operands fun setting path =>
        if arguments.has 'f' || arguments.has 'e' then
          match setting.tree.locate setting.directory (Text.ofOctets path) with
          | .ok place => setting.leave 0 (Text.octets place.path ++ ending) ""
          | .error _ => setting.leave 1 "" ""
        else
          match setting.findSelf path with
          | .ok (_, .link target) => setting.leave 0 (Text.octets target ++ ending) ""
          | _ => setting.leave 1 "" ""

/-- Removes files, with the option `r` also directories; with the option `f` nothing has to be
there. -/
def remove (setting : Setting) (words : List String) : Effect :=
  let table : OptionTable :=
    { flags := "rRfdvi".toList
      named := [("--recursive", 'r'), ("--force", 'f'), ("--verbose", 'v'), ("--dir", 'd')] }
  setting.withArguments table words fun arguments =>
    let deep := arguments.has 'r' || arguments.has 'R'
    if arguments.operands.isEmpty then
      if arguments.has 'f' then setting.leave 0 "" "" else setting.misuse "missing operand"
    else
      setting.forEach arguments.operands fun setting path =>
        let cannot := fun (reason : String) =>
          setting.refuse ("cannot remove " ++ quotedName path ++ ": " ++ reason)
        let done := fun (tree : FileTree) (kind : String) =>
          ({ tree
             out :=
              if arguments.has 'v' then "removed " ++ kind ++ quotedName path ++ "\n"
              else "" } : Effect)
        match setting.findSelf path with
        | .ok (location, .directory) =>
            if deep ∧ location = [] then
              setting.leave 1 "" (setting.complaint "it is dangerous to operate recursively on '/'"
                ++ setting.complaint "use --no-preserve-root to override this failsafe")
            else if deep ∧ baseName path ∈ [".", ".."] then
              setting.refuse ("refusing to remove '.' or '..' directory: skipping "
                ++ quotedName path)
            else if deep ∧ setting.entersLink path then
              let tree := (setting.tree.children location).foldl
                (fun tree (name, _) => tree.erase (location ++ [name])) setting.tree
              if arguments.has 'f' then { tree }
              else { cannot "Not a directory" with tree }
            else if deep then
              let inner := (setting.tree.below location).reverse.map fun (names, entry) =>
                "removed " ++ (if entry = .directory then "directory " else "")
                  ++ quotedName (beyond path names) ++ "\n"
              let effect := done (setting.tree.erase location) "directory "
              { effect with
                out := (if arguments.has 'v' then String.join inner else "") ++ effect.out }
            else if arguments.has 'd' then
              if (setting.tree.children location).isEmpty ∧ setting.entersLink path then
                if arguments.has 'f' then setting.leave 0 "" "" else cannot "Not a directory"
              else if (setting.tree.children location).isEmpty then
                done (setting.tree.erase location) "directory "
              else cannot "Directory not empty"
            else cannot "Is a directory"
        | .ok (location, _) => done (setting.tree.erase location) ""
        | .error error =>
            if arguments.has 'f' ∧ (error = .notFound ∨ error = .notDirectory) then
              setting.leave 0 "" ""
            else cannot (reasonOf error)

/-- Removes an empty directory. What cannot be removed is called by the words of `kind`. -/
def removeEmpty (setting : Setting) (tells : Bool) (kind path : String) : Effect :=
  let told := if tells then setting.complaint ("removing directory, " ++ quotedName path) else ""
  let cannot := fun (reason : String) =>
    { setting.refuse ("failed to remove " ++ kind ++ quotedName path ++ ": " ++ reason) with
      out := told }
  let notFollowed := "Symbolic link not followed"
  match setting.findSelf path with
  | .ok (location, .directory) =>
      if baseName path = "." then cannot (reasonOf .invalidArgument)
      else if setting.entersLink path then cannot notFollowed
      else if (setting.tree.children location).isEmpty then
        { tree := setting.tree.erase location, out := told }
      else cannot (reasonOf .notEmpty)
  | .ok _ => cannot (reasonOf .notDirectory)
  | .error error =>
      cannot (if setting.entersLink path ∧ error ≠ .notDirectory then notFollowed
        else reasonOf error)

/-- The directories that a relative path goes through, the innermost first. -/
def ancestors (path : String) : List String :=
  let names := (Path.names path).filter (· ≠ "")
  let start := if Path.isAbsolute path then "/" else ""
  ((List.range names.length).map fun n =>
    start ++ "/".intercalate (names.take (n + 1))).reverse

/-- Removes an empty directory, and then those on the way to it as long as they are empty too. -/
def removeWay (setting : Setting) (tells : Bool) (path : String) : Effect :=
  (ancestors path).tail.foldl
    (fun effect part =>
      if effect.status ≠ 0 then effect
      else
        let next := { setting with tree := effect.tree }.removeEmpty tells "directory " part
        { next with out := effect.out ++ next.out })
    (setting.removeEmpty tells "" path)

/-- Removes empty directories, with the option `p` also those on the way to them. -/
def removeDirectories (setting : Setting) (words : List String) : Effect :=
  let table : OptionTable :=
    { flags := "pv".toList, named := [("--parents", 'p'), ("--verbose", 'v')] }
  setting.withArguments table words fun arguments =>
    if arguments.operands.isEmpty then setting.misuse "missing operand"
    else
      setting.forEach arguments.operands fun setting path =>
        if arguments.has 'p' then setting.removeWay (arguments.has 'v') path
        else setting.removeEmpty (arguments.has 'v') "" path

/-- Makes a directory and those on the way to it that are missing. -/
def makeWay (setting : Setting) (tells : Bool) (path : String) : Effect :=
  (ancestors path).reverse.foldl
    (fun effect part =>
      if effect.status ≠ 0 then effect
      else
        let setting := { setting with tree := effect.tree }
        let cannot := fun (error : OsError) =>
          setting.refuse ("cannot create directory " ++ quotedName part ++ ": " ++ reasonOf error)
        match setting.find part with
        | .ok (_, .directory) => effect
        | .ok _ => cannot (if part = path then .alreadyExists else .notDirectory)
        | .error .notFound =>
            match setting.tree.makeDirectory setting.directory (Text.ofOctets part) with
            | .ok tree =>
                { effect with
                  tree
                  out := effect.out ++ (if tells then
                    setting.complaint ("created directory " ++ quotedName part) else "") }
            | .error error => cannot error
        | .error error => cannot error)
    { tree := setting.tree }

/-- Makes directories, with the option `p` also those on the way. -/
def makeDirectories (setting : Setting) (words : List String) : Effect :=
  let table : OptionTable :=
    { flags := "pv".toList, valued := ['m']
      named := [("--parents", 'p'), ("--mode", 'm'), ("--verbose", 'v')] }
  setting.withArguments table words fun arguments =>
    if arguments.operands.isEmpty then setting.misuse "missing operand"
    else
      setting.forEach arguments.operands fun setting path =>
        if arguments.has 'p' ∧ path ≠ "" then setting.makeWay (arguments.has 'v') path
        else
          match setting.tree.makeDirectory setting.directory (Text.ofOctets path) with
          | .ok tree =>
              { tree
                out :=
                  if arguments.has 'v' then
                    setting.complaint ("created directory " ++ quotedName path)
                  else "" }
          | .error error =>
              setting.refuse
                ("cannot create directory " ++ quotedName path ++ ": " ++ reasonOf error)

def touch (setting : Setting) (words : List String) : Effect :=
  let table : OptionTable := { flags := "camf".toList, valued := "rtd".toList }
  setting.withArguments table words fun arguments =>
    if arguments.operands.isEmpty then setting.misuse "missing file operand"
    else
      setting.forEach arguments.operands fun setting path =>
        match setting.find path with
        | .ok _ => setting.leave 0 "" ""
        | .error .notFound =>
            if arguments.has 'c' then setting.leave 0 "" ""
            else
              match setting.tree.locateFile setting.directory (Text.ofOctets path) with
              | .ok place => { tree := setting.tree.overwrite place [] false }
              | .error error =>
                  if path.endsWith "/" then
                    setting.refuse ("setting times of " ++ quotedName path
                      ++ ": No such file or directory")
                  else
                    setting.refuse ("cannot touch " ++ quotedName path ++ ": " ++ reasonOf error)
        | .error error =>
            setting.refuse ((if path.endsWith "/" then "setting times of " else "cannot touch ")
              ++ quotedName path ++ ": " ++ reasonOf error)

/-- Whether files can be run after a change of mode, given whether they could be before. Nothing if
the change makes no sense. -/
def changedMode? (mode : String) (before : Bool) : Option Bool :=
  if !mode.isEmpty ∧ mode.toList.all (fun c => '0' ≤ c && c ≤ '7') ∧ mode.length ≤ 5 then
    let digits := (mode.toList.reverse.take 3).map fun c => (c.toNat - '0'.toNat) % 2
    some (digits.any (· = 1))
  else
    (mode.splitOn ",").foldlM
      (fun before clause =>
        let chars := clause.toList.dropWhile (· ∈ ['u', 'g', 'o', 'a'])
        match chars with
        | '+' :: perms =>
            if perms.all (· ∈ "rwxXstugo".toList) then some (before || 'x' ∈ perms) else none
        | '-' :: perms =>
            if perms.all (· ∈ "rwxXstugo".toList) then
              some (before && !('x' ∈ perms && (clause.startsWith "-" || clause.startsWith "a")))
            else none
        | '=' :: perms =>
            if perms.all (· ∈ "rwxXstugo".toList) then some ('x' ∈ perms) else none
        | _ => none)
      before

/-- Changes whether files can be run. -/
def changeMode (setting : Setting) (words : List String) : Effect :=
  let isMode := fun (word : String) =>
    match word.toList with
    | '-' :: c :: _ => c ∈ "rwxXst".toList
    | _ => false
  let (modes, words) := words.partition isMode
  let table : OptionTable := { flags := "Rvcf".toList }
  setting.withArguments table words fun arguments =>
    match modes ++ arguments.operands with
    | [] => setting.misuse "missing operand"
    | [mode] => setting.misuse ("missing operand after " ++ quotedName mode)
    | mode :: paths =>
        if (changedMode? mode false).isNone then
          setting.misuse ("invalid mode: " ++ quotedName mode)
        else
          setting.forEach paths fun setting path =>
            match setting.find path with
            | .ok (place, .file bytes executable) =>
                { tree := setting.tree.refill place
                    (.file bytes ((changedMode? mode executable).getD executable)) }
            | .ok _ => setting.leave 0 "" ""
            | .error error =>
                setting.refuse ("cannot access " ++ quotedName path ++ ": " ++ reasonOf error)

/-- A name in a list, with a mark for what it names where that is asked for. -/
def listedName (arguments : Arguments) (name : String) (entry : Entry) : String :=
  let mark :=
    match entry with
    | .directory => if arguments.has 'F' || arguments.has 'p' then "/" else ""
    | .link _ => if arguments.has 'F' then "@" else ""
    | entry => if arguments.has 'F' && entry.isExecutable then "*" else ""
  Text.octets name ++ mark ++ "\n"

/-- The names in a directory, one to a line. -/
def listedDirectory (setting : Setting) (arguments : Arguments) (location : Location) : String :=
  let inner := (setting.tree.children location).filter fun (name, _) =>
    !name.startsWith "." || arguments.has 'a' || arguments.has 'A'
  let around := if arguments.has 'a' then [(".", Entry.directory), ("..", .directory)] else []
  let listed := around ++ inner
  let listed := if arguments.has 'r' then listed.reverse else listed
  String.join (listed.map fun (name, entry) => listedName arguments name entry)

def list (setting : Setting) (words : List String) : Effect :=
  let table : OptionTable :=
    { flags := "aA1dFprU".toList, named := [("--all", 'a'), ("--almost-all", 'A')] }
  match table.read none words with
  | .error reason => setting.leave 2 "" (setting.complaint reason ++ setting.advice)
  | .ok arguments =>
      let operands := if arguments.operands.isEmpty then ["."] else arguments.operands
      let operands := operands.mergeSort fun left right => left ≤ right
      let found := operands.map fun path => (path, setting.find path)
      let missing := String.join (found.map fun (path, result) =>
        match result with
        | .error error =>
            setting.complaint ("cannot access " ++ quotedName path ++ ": " ++ reasonOf error)
        | .ok _ => "")
      let files := found.filterMap fun (path, result) =>
        match result with
        | .ok (_, entry) =>
            if entry = .directory ∧ !arguments.has 'd' then none
            else some (listedName arguments (Text.ofOctets path) entry)
        | .error _ => none
      let directories := found.filterMap fun (path, result) =>
        match result with
        | .ok (place, .directory) => if arguments.has 'd' then none else some (path, place)
        | _ => none
      let headed := operands.length > 1
      let parts := directories.map fun (path, place) =>
        (if headed then shownName path ++ ":\n" else "") ++ setting.listedDirectory arguments place
      let first := if files.isEmpty then [] else [String.join files]
      setting.leave (if missing.isEmpty then 0 else 2) ("\n".intercalate (first ++ parts)) missing

end StraightLine.Sandbox.Setting
