import StraightLine.CommandLine.Run

/-! The command line on the machine at hand. Programs cannot be started from here, so a build ends
where it would run its backend. -/

namespace StraightLine

/-- Work on the machine at hand, with the reports that are shown. -/
abbrev Terminal := StateT (Option LogFilter) IO

def OsError.ofFailure : IO.Error → OsError
  | .noFileOrDirectory _ _ _ => .notFound
  | .permissionDenied _ _ _ => .permissionDenied
  | .alreadyExists _ _ _ => .alreadyExists
  | .inappropriateType _ code _ => if code = 21 then .isDirectory else .notDirectory
  | _ => .unsupported

/-- Does something that may fail. -/
def guarded {α : Type} (action : IO α) : Terminal (Except OsError α) := do
  try
    return .ok (← action)
  catch failure =>
    return .error (OsError.ofFailure failure)

def temporaryDirectory : Terminal String := do
  return (← IO.getEnv "TMPDIR").getD "/tmp"

instance : Host Terminal where
  report event := do
    if (← get).any (·.shows event) then
      IO.eprintln event.render
  getEnv name := IO.getEnv name
  findProgram name := do
    let directories := ((← IO.getEnv "PATH").getD "").splitOn ":"
    (directories.map (Path.join · name)).findM? fun path => do
      return (← guarded (IO.FS.readBinFile path)).toBool
  canonical path := guarded do return (← IO.FS.realPath path).toString
  readText path := do
    match ← guarded (IO.FS.readBinFile path) with
    | .ok bytes => return (Text.exactText? bytes.data.toList).elim (.error .notText) .ok
    | .error error => return .error error
  writeText path text := guarded (IO.FS.writeFile path text)
  scratchParent := temporaryDirectory
  makeScratch := do
    let suffix := String.ofList ((Nat.toDigits 10 (1000000 + (← IO.monoNanosNow) % 1000000)).drop 1)
    let path := Path.join (← temporaryDirectory) ("ctc-" ++ suffix)
    return ((← guarded (IO.FS.createDir path)).map fun _ => path).mapError (.atPath · path)
  removeScratch path := do
    let _ ← guarded (IO.FS.removeDirAll path)
  runProgram _ _ _ := return .error .unsupported

instance : Console Terminal where
  workingDirectory := return (← IO.currentDir).toString
  listen filter := set (some filter)
  print text := IO.print text
  complain text := IO.eprint text

end StraightLine

def main (words : List String) : IO UInt32 := do
  let (code, _) ← (StraightLine.runCommandLine (m := StraightLine.Terminal) words).run none
  return code.toUInt32
