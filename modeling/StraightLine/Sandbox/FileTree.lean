import StraightLine.Host

/-! A tree of files as a value. Paths are followed name by name as the operating system does it, so
every request ends in the answer or in the error it would give. -/

namespace StraightLine.Sandbox

inductive Utility where
  | baseName
  | cat
  | changeMode
  | copy
  | count
  | cut
  | directoryName
  | echo
  | env
  | fail
  | grep
  | head
  | link
  | list
  | makeDirectory
  | move
  | print
  | printDirectory
  | readLink
  | remove
  | removeDirectory
  | sequence
  | shell
  | sleep
  | sort
  | succeed
  | tail
  | tee
  | test
  | touch
  | translate
  | unique
  deriving DecidableEq, Repr

def Utility.named : List (String × Utility) :=
  [("[", .test), ("basename", .baseName), ("cat", .cat), ("chmod", .changeMode), ("cp", .copy),
    ("cut", .cut), ("dash", .shell), ("dirname", .directoryName), ("echo", .echo), ("env", .env),
    ("false", .fail), ("grep", .grep), ("head", .head), ("ln", .link), ("ls", .list),
    ("mkdir", .makeDirectory), ("mv", .move), ("printf", .print), ("pwd", .printDirectory),
    ("readlink", .readLink), ("rm", .remove), ("rmdir", .removeDirectory), ("seq", .sequence),
    ("sh", .shell), ("sleep", .sleep), ("sort", .sort), ("tail", .tail), ("tee", .tee),
    ("test", .test), ("touch", .touch), ("tr", .translate), ("true", .succeed), ("uniq", .unique),
    ("wc", .count)]

/-- Where a file is: the names on the way to it from the root. -/
abbrev Location := List String

def Location.path (location : Location) : String :=
  "/" ++ "/".intercalate location

/-- What there is at a location. A link leads on to another path, and a sink is a file that forgets
what is written to it. -/
inductive Entry where
  | directory
  | file (bytes : List UInt8) (executable : Bool)
  | link (target : String)
  | utility (utility : Utility)
  | sink
  deriving DecidableEq, Repr

def Entry.isExecutable : Entry → Bool
  | .file _ executable => executable
  | .utility _ => true
  | _ => false

def Entry.bytes : Entry → List UInt8
  | .file bytes _ => bytes
  | _ => []

/-- A change of place: what was at a location, or below it, is now at another one. -/
structure Shift where
  source : Location
  target : Location
  deriving DecidableEq, Repr

/-- Where a location is after a change of place. -/
def Shift.apply (shift : Shift) (location : Location) : Location :=
  if shift.source.isPrefixOf location then
    shift.target ++ location.drop shift.source.length
  else location

/-- Where a location is after some changes of place. -/
def Location.after (location : Location) (shifts : List Shift) : Location :=
  shifts.foldl (fun location shift => shift.apply location) location

/-- Whether what is at a location has been removed. It is kept for those who still have it open,
under a name that no path can spell. -/
def Location.isGone (location : Location) : Bool :=
  location.any fun name => name.startsWith "\x00"

/-- All files and directories but the root, by location; the changes of place so far, in order; and
groups of locations that hold one and the same file. -/
structure FileTree where
  entries : List (Location × Entry) := []
  shifts : List Shift := []
  twins : List (List Location) := []
  deriving DecidableEq, Repr

def pathLimit : Nat := 4095

def nameLimit : Nat := 255

/-- How many links may be followed on the way to a file. -/
def linkLimit : Nat := 40

namespace FileTree

/-- What there is at a location. The root is a directory. -/
def get? (tree : FileTree) (location : Location) : Option Entry :=
  if location.isEmpty then some .directory else tree.entries.lookup location

def insert (tree : FileTree) (location : Location) (entry : Entry) : FileTree :=
  { tree with entries := (location, entry) :: tree.entries.filter (·.1 ≠ location) }

/-- Changes the place of a location with all that lies below it. -/
def shift (tree : FileTree) (shift : Shift) : FileTree :=
  { entries := tree.entries.map fun (location, entry) => (shift.apply location, entry)
    shifts := tree.shifts ++ [shift]
    twins := tree.twins.map fun group => group.map shift.apply }

/-- Removes a location with all that lies below it. -/
def erase (tree : FileTree) (location : Location) : FileTree :=
  tree.shift ⟨location, location.dropLast ++ ["\x00" ++ toString tree.shifts.length]⟩

/-- Moves a location with all that lies below it to another place, where nothing else is left. -/
def move (tree : FileTree) (location place : Location) : FileTree :=
  let tree := if (tree.get? place).isSome then tree.erase place else tree
  tree.shift ⟨location, place⟩

/-- The locations that hold the same file as a location. -/
def twinsOf (tree : FileTree) (location : Location) : List Location :=
  (tree.twins.find? (·.contains location)).getD [location]

def same (tree : FileTree) (left right : Location) : Bool :=
  (tree.twinsOf left).contains right

/-- Puts an entry in the place of a file, wherever that file is. -/
def refill (tree : FileTree) (location : Location) (entry : Entry) : FileTree :=
  (tree.twinsOf location).foldl (fun tree place => tree.insert place entry) tree

/-- Lets another place hold the same file as a location. -/
def twin (tree : FileTree) (location place : Location) (entry : Entry) : FileTree :=
  let group := tree.twinsOf location
  { tree.insert place entry with
    twins := (group ++ [place]) :: tree.twins.filter (!·.contains location) }

/-- Makes a directory at a location and at every location on the way to it where there is nothing.
-/
def insertDirectories (tree : FileTree) (location : Location) : FileTree :=
  (List.range (location.length + 1)).foldl
    (fun tree depth =>
      let place := location.take depth
      if (tree.get? place).isSome then tree else tree.insert place .directory)
    tree

/-- The names directly below a location, in order, with what there is. -/
def children (tree : FileTree) (location : Location) : List (String × Entry) :=
  let below := tree.entries.filterMap fun (place, entry) =>
    match place.getLast? with
    | some name =>
        if place = location ++ [name] ∧ !place.isGone then some (name, entry) else none
    | none => none
  below.mergeSort fun left right => left.1 ≤ right.1

/-- All that lies below a location, in order, with the names that lead there. -/
def below (tree : FileTree) (location : Location) : List (List String × Entry) :=
  let inner := tree.entries.filterMap fun (place, entry) =>
    if location.isPrefixOf place ∧ place ≠ location ∧ !place.isGone then
      some (place.drop location.length, entry)
    else none
  inner.mergeSort fun left right =>
    "\x00".intercalate left.1 ≤ "\x00".intercalate right.1

/-- Follows names from a location. Every place that a name is looked up in has to be a directory, at
most `links` links are followed, and one at the very end only if `follow` says so. Whether there is
anything at the last place is not asked. -/
def walk (tree : FileTree) (follow : Bool) (links : Nat) (place : Location) :
    List String → Except OsError Location
  | [] => .ok place
  | name :: rest =>
      match tree.get? place with
      | none => .error .notFound
      | some .directory =>
          if nameLimit < name.utf8ByteSize then .error .nameTooLong
          else if name = "" ∨ name = "." then walk tree follow links place rest
          else if name = ".." then walk tree follow links place.dropLast rest
          else if place.isGone then .error .notFound
          else
            match tree.get? (place ++ [name]), links with
            | some (.link target), links =>
                if rest.isEmpty ∧ !follow then .ok (place ++ [name])
                else
                  match links with
                  | 0 => .error .tooManyLinks
                  | links + 1 =>
                      walk tree follow links (if Path.isAbsolute target then [] else place)
                        (Path.names target ++ rest)
            | _, links => walk tree follow links (place ++ [name]) rest
      | some _ => .error .notDirectory
  termination_by names => (links, names.length)

/-- The location that the names of a path lead to, however long the path is. -/
def resolve (tree : FileTree) (directory : Location) (follow : Bool) (path : String) :
    Except OsError Location :=
  if path.isEmpty then .error .notFound
  else if path.contains '\x00' then .error .nulInPath
  else
    tree.walk follow linkLimit (if Path.isAbsolute path then [] else directory) (Path.names path)

/-- The location of a path that the system is asked about, seen from a working directory. -/
def locateAs (tree : FileTree) (follow : Bool) (directory : Location) (path : String) :
    Except OsError Location :=
  if path.contains '\x00' then .error .nulInPath
  else if pathLimit < path.utf8ByteSize then .error .nameTooLong
  else tree.resolve directory follow path

/-- The location of a path, all links followed. -/
def locate (tree : FileTree) (directory : Location) (path : String) : Except OsError Location :=
  tree.locateAs true directory path

/-- What there is at a path, and where. -/
def findAs (tree : FileTree) (follow : Bool) (directory : Location) (path : String) :
    Except OsError (Location × Entry) := do
  let location ← tree.locateAs follow directory path
  match tree.get? location with
  | some entry => return (location, entry)
  | none => throw .notFound

/-- What there is at a path, and where, all links followed. -/
def find (tree : FileTree) (directory : Location) (path : String) :
    Except OsError (Location × Entry) :=
  tree.findAs true directory path

def read (tree : FileTree) (directory : Location) (path : String) :
    Except OsError (List UInt8) := do
  match ← tree.find directory path with
  | (_, .directory) => throw .isDirectory
  | (_, entry) => return entry.bytes

/-- The location of a file that is to be written. A path that ends in a slash names no file. -/
def locateFile (tree : FileTree) (directory : Location) (path : String) :
    Except OsError Location := do
  let named := (path.dropEndWhile '/').copy
  let location ← tree.locate directory (if named.isEmpty then path else named)
  if path.endsWith "/" ∨ tree.get? location = some .directory then throw .isDirectory
  return location

/-- A file's content replaced, or a new file. Only a new file takes on whether it can be run. -/
def overwrite (tree : FileTree) (location : Location) (bytes : List UInt8) (executable : Bool) :
    FileTree :=
  match tree.get? location with
  | some .sink => tree
  | some (.file _ executable) => tree.refill location (.file bytes executable)
  | _ => tree.insert location (.file bytes executable)

def makeDirectory (tree : FileTree) (directory : Location) (path : String) :
    Except OsError FileTree := do
  let named := (path.dropEndWhile '/').copy
  let location ← tree.locateAs false directory (if named.isEmpty then path else named)
  if (tree.get? location).isSome then throw .alreadyExists
  return tree.insert location .directory

end FileTree

end StraightLine.Sandbox
