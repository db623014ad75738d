import StraightLine.Sandbox.Shell

/-! What the commands that a shell runs itself have in common: they take options from the front of
their arguments, and write. -/

namespace StraightLine.Sandbox

namespace Act

/-- Writes out. A descriptor that leads nowhere is an error. -/
def out (text : String) : Act Nat := do
  let shell ← get
  if text.isEmpty then return 0
  if (shell.descriptors.lookup 1).isSome then
    put 1 text
    return 0
  else
    complain (shell.command ++ ": I/O error")
    return 1

/-- Options at the front of arguments, each a letter, and the other arguments. -/
def letters (known : List Char) : List String → Act (List Char × List String)
  | [] => return ([], [])
  | word :: rest =>
      match word.toList with
      | ['-', '-'] => return ([], rest)
      | '-' :: c :: more => do
          match (c :: more).find? (· ∉ known) with
          | some c => refuse ("Illegal option -" ++ c.toString)
          | none => do
              let (found, words) ← letters known rest
              return (c :: more ++ found, words)
      | _ => return ([], word :: rest)

end Act

end StraightLine.Sandbox
