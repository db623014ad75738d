import StraightLine.Sandbox.FileTree
import StraightLine.Text.Utf8

/-! Which program a file is. A file that starts with a line naming another program is run by that
one. Text is text of octets. -/

namespace StraightLine.Sandbox

/-- A program ready to run: what it is, the name it is called by, and its arguments. -/
structure Program where
  utility : Utility
  self : String
  args : List String
  deriving DecidableEq, Repr

/-- How much of a file is looked at to tell what it is. -/
def headSize : Nat := 256

/-- How often a file may name another one as its program. -/
def programDepth : Nat := 6

/-- Whether a character divides words in the first line of a file. -/
def isLineBlank (c : Char) : Bool :=
  c == ' ' || c == '\t'

/-- The program that the first line of a file names, and the argument it gives, if any. -/
def interpreter? (text : String) : Option (String × Option String) :=
  match (text.take headSize).copy.toList with
  | '#' :: '!' :: rest =>
      let line := rest.takeWhile (· ≠ '\n')
      let trimmed := (line.reverse.dropWhile isLineBlank).reverse.dropWhile isLineBlank
      let name := trimmed.takeWhile fun c => !isLineBlank c && c ≠ '\x00'
      let argument := (trimmed.drop name.length).dropWhile isLineBlank
      let argument := argument.takeWhile (· ≠ '\x00')
      let isWhole := rest.contains '\n' || text.length < headSize || name.length < line.length
      if name.isEmpty || !isWhole then none
      else
        some (String.ofList name,
          if argument.isEmpty then none else some (String.ofList argument))
  | _ => none

def FileTree.program (tree : FileTree) (directory : Location) (path self : String)
    (args : List String) : Nat → Except OsError Program
  | 0 => .error .tooManyLinks
  | depth + 1 => do
      match ← tree.find directory (Text.ofOctets path) with
      | (_, .utility utility) => return ⟨utility, self, args⟩
      | (_, .file bytes true) =>
          match interpreter? (Text.octetsOfBytes bytes) with
          | some (name, argument) =>
              tree.program directory name name (argument.toList ++ path :: args) depth
          | none => throw .noExecutableFormat
      | _ => throw .permissionDenied

/-- Whether the first line of a file has characters that no text has. -/
def isBinary (text : String) : Bool :=
  ((text.take headSize).copy.toList.takeWhile (· ≠ '\n')).any fun c =>
    c.toNat == 127 || (c.toNat < 32 && !(9 ≤ c.toNat && c.toNat ≤ 13))

/-- The program that a shell finds at a path. A text that names no program is run by a shell. -/
def FileTree.command (tree : FileTree) (directory : Location) (path self : String)
    (args : List String) : Except OsError Program :=
  match tree.program directory path self args programDepth with
  | .error .noExecutableFormat =>
      match tree.read directory (Text.ofOctets path) with
      | .ok bytes =>
          if isBinary (Text.octetsOfBytes bytes) then .error .noExecutableFormat
          else .ok ⟨.shell, "/bin/sh", path :: args⟩
      | .error error => .error error
  | result => result

/-- Tries paths one after another. Where nothing is, the search goes on; another failure is
remembered. -/
def FileTree.firstProgram (tree : FileTree) (directory : Location) (self : String)
    (args : List String) (last : OsError) : List String → Except OsError Program
  | [] => .error last
  | path :: rest =>
      match tree.command directory path self args with
      | .ok program => .ok program
      | .error .notFound => tree.firstProgram directory self args last rest
      | .error .notDirectory => tree.firstProgram directory self args last rest
      | .error error => tree.firstProgram directory self args error rest

/-- Sets the variables that words at the front name, and gives the words after them. -/
def environmentAssignments (env : List (String × String)) :
    List String → Except String (List (String × String) × List String)
  | [] => .ok (env, [])
  | word :: rest =>
      if word.contains '=' then
        let name := String.ofList (word.toList.takeWhile (· ≠ '='))
        let value := (word.drop (name.length + 1)).copy
        let others := env.filter fun (other, _) => other ≠ name
        environmentAssignments (others ++ [(name, value)]) rest
      else .ok (env, word :: rest)

/-- Reads the arguments of a program that starts another: options about the variables, variables to
set, and the command. -/
def environmentRequest (env : List (String × String)) :
    List String → Except String (List (String × String) × List String)
  | [] => .ok (env, [])
  | "-" :: rest => environmentRequest [] rest
  | "-i" :: rest => environmentRequest [] rest
  | "--" :: rest => environmentAssignments env rest
  | ["-u"] => .error "option requires an argument -- 'u'"
  | "-u" :: name :: rest => environmentRequest (env.filter fun (other, _) => other ≠ name) rest
  | word :: rest =>
      match word.toList with
      | '-' :: '-' :: _ => .error ("unrecognized option '" ++ word ++ "'")
      | '-' :: c :: _ => .error ("invalid option -- '" ++ c.toString ++ "'")
      | _ => environmentAssignments env (word :: rest)

end StraightLine.Sandbox
