import StraightLine.Sandbox.Shell.Expand
import StraightLine.Sandbox.Shell.Process

/-! Leading descriptors to files, to what others lead to, and to texts. -/

namespace StraightLine.Sandbox

namespace Act

/-- What the system says of a file that cannot be opened. -/
def openReason (creates : Bool) (error : OsError) : String :=
  if error = .notFound ∨ error = .notDirectory then
    if creates then "Directory nonexistent" else "No such file"
  else error.reason.1

/-- Leads descriptors elsewhere. Gives whether all could be led. -/
def redirect (run : Runner) : List Redirect → Act Bool
  | [] => return true
  | change :: rest => do
      let done ←
        match change with
        | .file descriptor mode word => do
            let path ← expandText (substitute run) word
            let shell ← get
            let world := shell.world
            let isFile :=
              match world.tree.find shell.directory (Text.ofOctets path) with
              | .ok (_, .file _ _) => true
              | _ => false
            let creates := !(mode matches .input)
            if (mode matches .overwrite) && shell.has 'C' && isFile then
              complain ("cannot create " ++ path ++ ": File exists")
              pure false
            else
              match world.openFile shell.directory mode (Text.ofOctets path) with
              | .ok (opened, world) => do
                  set { shell with
                    world, descriptors := shell.descriptors.lead descriptor opened }
                  pure true
              | .error error => do
                  complain ((if creates then "cannot create " else "cannot open ") ++ path ++ ": "
                    ++ openReason creates error)
                  pure false
        | .duplicate descriptor word => do
            let source ← expandText (substitute run) word
            let shell ← get
            match source.toList with
            | ['-'] => do
                set { shell with descriptors := shell.descriptors.close descriptor }
                pure true
            | [c] =>
                match digitValue? 10 c with
                | some source =>
                    match shell.descriptors.lookup source with
                    | some opened => do
                        set { shell with
                          descriptors := shell.descriptors.lead descriptor opened }
                        pure true
                    | none => do
                        complain (toString source ++ ": Bad file descriptor")
                        pure false
                | none => do
                    set { shell with line := shell.readLine }
                    refuse "Syntax error: Bad fd number"
            | _ => do
                set { shell with line := shell.readLine }
                refuse "Syntax error: Bad fd number"
        | .document descriptor body =>
            let lead : Act Nat := do
              let marks ← expand (substitute run) wordDepth false body
              let shell ← get
              let (opened, world) := shell.world.makeDocument (patternOf marks).text
              set { shell with world, descriptors := shell.descriptors.lead descriptor opened }
              return 0
            return (← guarded lead) = 0
      if done then redirect run rest else return false

end Act

end StraightLine.Sandbox
