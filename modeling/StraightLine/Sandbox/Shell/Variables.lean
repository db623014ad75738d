import StraightLine.Sandbox.Shell.Arguments

/-! The commands of a shell that set, mark, show and remove variables. -/

namespace StraightLine.Sandbox

/-- The parts of a text: quotes, and what stands between them. -/
def quoteRuns : List Char → List (Bool × List Char)
  | [] => []
  | c :: rest =>
      let isQuote := c == '\''
      match quoteRuns rest with
      | (same, run) :: runs =>
          if same = isQuote then (same, c :: run) :: runs
          else (isQuote, [c]) :: (same, run) :: runs
      | [] => [(isQuote, [c])]

/-- A text in quotes, so that a shell reads it back. -/
def singleQuoted (text : String) : String :=
  let runs := (quoteRuns text.toList).map fun (isQuote, run) =>
    let mark := if isQuote then "\"" else "'"
    mark ++ String.ofList run ++ mark
  (if text.isEmpty || text.startsWith "'" then "''" else "") ++ String.join runs

namespace Act

/-- The name and the value in an argument that sets a variable. -/
def setting (word : String) : Act (String × Option String) := do
  let name := String.ofList (word.toList.takeWhile (· ≠ '='))
  if !isName name then refuse (name ++ ": bad variable name")
  else if word.contains '=' then return (name, some (word.drop (name.length + 1)).copy)
  else return (name, none)

/-- Changes a variable that need not have a value, setting one if there is one. -/
def mark (change : Variable → Variable) (word : String) : Act Unit := do
  let (name, value) ← setting word
  match value with
  | some value => assign name value
  | none => pure ()
  modify fun shell => shell.putVariable name (change ((shell.vars.lookup name).getD {}))

/-- Variables in the order of their names, each in a line that sets it again. -/
def showVariables (front : String) (shown : Variable → Bool) : Act Nat := do
  let shell ← get
  let vars := (shell.vars.filter fun (_, var) => shown var).mergeSort fun left right =>
    left.1 ≤ right.1
  out (String.join (vars.map fun (name, var) =>
    match var.value with
    | some value => front ++ name ++ "=" ++ singleQuoted value ++ "\n"
    | none => if front.isEmpty then "" else front ++ name ++ "\n"))

/-- Marks variables, or shows those that are marked. -/
def marking (front : String) (change : Variable → Variable) (shown : Variable → Bool)
    (args : List String) : Act Nat := do
  let (found, words) ← letters ['p'] args
  if words.isEmpty || !found.isEmpty then showVariables front shown
  else do
    for word in words do mark change word
    return 0

def unset (args : List String) : Act Nat := do
  let (found, words) ← letters ['f', 'v'] args
  let shell ← get
  for word in words do
    if found.getLast? = some 'f' then
      modify fun shell =>
        { shell with functions := shell.functions.filter fun (name, _) => name ≠ word }
    else
      if !isName word then refuse (word ++ ": bad variable name")
      if ((shell.vars.lookup word).map (·.readOnly)).getD false then
        refuse (word ++ ": is read only")
      modify (·.dropVariable word)
  return 0

def makeLocal (args : List String) : Act Nat := do
  if (← get).calls = 0 then refuse "not in a function"
  for word in args.filter (· ≠ "-") do
    let (name, value) ← setting word
    modify fun shell =>
      { shell with saved := (name, shell.vars.lookup name) :: shell.saved }
    match value with
    | some value => assign name value
    | none => pure ()
  return 0

end Act

end StraightLine.Sandbox
