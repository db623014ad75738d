import StraightLine.Sandbox.FileTree
import StraightLine.Sandbox.Script
import StraightLine.Text.Utf8

/-! What running programs share: the files, what has been opened, and the pipes between them. Text
that is read and written is text of octets. -/

namespace StraightLine.Sandbox

/-- What an open file leads to. -/
inductive Target where
  | file (location : Location)
  | pipe (index : Nat)
  deriving DecidableEq, Repr

/-- An open file, with how far it has been read or written. -/
structure OpenFile where
  target : Target
  offset : Nat := 0
  appends : Bool := false
  deriving DecidableEq, Repr

/-- What programs share. The first pipe collects what is written out, the second one complaints.
`started` counts the programs that have been started, `running` are the shells that wait for others,
and `sent` holds signals on their way, each with the number of the shell that it is meant for. -/
structure World where
  tree : FileTree
  pipes : Array String := #["", ""]
  opened : Array OpenFile := #[⟨.file ["dev", "null"], 0, false⟩, ⟨.pipe 0, 0, false⟩,
    ⟨.pipe 1, 0, false⟩]
  started : Nat := 0
  running : List Nat := []
  sent : List (Nat × Nat) := []

/-- What descriptors lead to: the positions of open files. -/
abbrev Descriptors := List (Nat × Nat)

/-- The descriptors that a program starts with: nothing to read, and the first two pipes. -/
def Descriptors.initial : Descriptors :=
  [(0, 0), (1, 1), (2, 2)]

def Descriptors.lead (descriptors : Descriptors) (descriptor opened : Nat) : Descriptors :=
  (descriptor, opened) :: descriptors.filter (·.1 ≠ descriptor)

def Descriptors.close (descriptors : Descriptors) (descriptor : Nat) : Descriptors :=
  descriptors.filter (·.1 ≠ descriptor)

/-- Bytes with others written over them from an offset on. A gap is filled with zeros. -/
def writeAt (bytes : List UInt8) (offset : Nat) (written : List UInt8) : List UInt8 :=
  bytes.take offset ++ List.replicate (offset - bytes.length) 0 ++ written
    ++ bytes.drop (offset + written.length)

namespace World

/-- Puts other files in place. Open files go along with what changes its place. -/
def withTree (world : World) (tree : FileTree) : World :=
  let shifts := tree.shifts.drop world.tree.shifts.length
  let follow := fun (file : OpenFile) =>
    match file.target with
    | .file location => { file with target := .file (location.after shifts) }
    | .pipe _ => file
  { world with tree, opened := world.opened.map follow }

/-- A new pipe, with the position of the open file that leads to it. -/
def makePipe (world : World) : Nat × World :=
  (world.opened.size,
    { world with
      pipes := world.pipes.push ""
      opened := world.opened.push ⟨.pipe world.pipes.size, 0, false⟩ })

/-- A new pipe that holds a text. -/
def makeDocument (world : World) (text : String) : Nat × World :=
  (world.opened.size,
    { world with
      pipes := world.pipes.push text
      opened := world.opened.push ⟨.pipe world.pipes.size, 0, false⟩ })

/-- Opens the file at a path, with the position of the open file. -/
def openFile (world : World) (directory : Location) (mode : OpenMode) (path : String) :
    Except OsError (Nat × World) := do
  let tree := world.tree
  let finish := fun (tree : FileTree) (location : Location) (appends : Bool) =>
    (world.opened.size,
      { world with tree, opened := world.opened.push ⟨.file location, 0, appends⟩ })
  match mode with
  | .input =>
      let (location, _) ← tree.find directory path
      return finish tree location false
  | .overwrite =>
      let location ← tree.locateFile directory path
      return finish (tree.overwrite location [] false) location false
  | .append =>
      let location ← tree.locateFile directory path
      let tree := if (tree.get? location).isSome then tree else tree.overwrite location [] false
      return finish tree location true
  | .update =>
      let location ← tree.locateFile directory path
      let tree := if (tree.get? location).isSome then tree else tree.overwrite location [] false
      return finish tree location false

def available (world : World) (opened : Nat) : Except OsError String :=
  match world.opened[opened]? with
  | none => .error .badDescriptor
  | some ⟨.pipe index, _, _⟩ => .ok (world.pipes[index]?.getD "")
  | some ⟨.file location, offset, _⟩ =>
      match world.tree.get? location with
      | some .directory => .error .isDirectory
      | some entry => .ok (Text.octetsOfBytes (entry.bytes.drop offset))
      | none => .ok ""

/-- Whether an open file leads to a file that keeps what it holds. -/
def isFile (world : World) (opened : Nat) : Bool :=
  match world.opened[opened]? with
  | some ⟨.file location, _, _⟩ =>
      match world.tree.get? location with
      | some (.file _ _) => true
      | _ => false
  | _ => false

def consume (world : World) (opened count : Nat) : World :=
  match world.opened[opened]? with
  | some ⟨.pipe index, _, _⟩ =>
      let left := ((world.pipes[index]?.getD "").drop count).copy
      { world with pipes := world.pipes.setIfInBounds index left }
  | some file =>
      { world with
        opened := world.opened.setIfInBounds opened { file with offset := file.offset + count } }
  | none => world

def write (world : World) (opened : Nat) (text : String) : World :=
  match world.opened[opened]? with
  | some ⟨.pipe index, _, _⟩ =>
      { world with pipes := world.pipes.modify index (· ++ text) }
  | some ⟨.file location, offset, appends⟩ =>
      match world.tree.get? location with
      | some (.file bytes executable) =>
          let offset := if appends then bytes.length else offset
          let written := Text.bytesOfOctets text
          { world with
            tree := world.tree.refill location (.file (writeAt bytes offset written) executable)
            opened := world.opened.setIfInBounds opened
              ⟨.file location, offset + written.length, appends⟩ }
      | _ => world
  | none => world

end World

end StraightLine.Sandbox
