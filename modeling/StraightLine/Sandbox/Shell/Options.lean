import StraightLine.Sandbox.Shell.Variables

/-! The options of a shell, and the commands that set them and read those of scripts. -/

namespace StraightLine.Sandbox

def optionNames : List (String × Char) :=
  [("errexit", 'e'), ("noglob", 'f'), ("ignoreeof", 'I'), ("interactive", 'i'), ("monitor", 'm'),
    ("noexec", 'n'), ("stdin", 's'), ("xtrace", 'x'), ("verbose", 'v'), ("vi", 'V'), ("emacs", 'E'),
    ("noclobber", 'C'), ("allexport", 'a'), ("notify", 'b'), ("nounset", 'u'), ("privileged", 'p'),
    ("nolog", 'L'), ("debug", 'D')]

def optionLetters : List Char :=
  "efIimnsxvVECabup".toList

namespace Act

def turn (on : Bool) (letter : Char) : Act Unit :=
  modify fun shell =>
    let others := shell.options.filter (· ≠ letter)
    { shell with options := if on then letter :: others else others }

/-- Sets options by letters after a sign, and gives whether a name of one has to follow. -/
def turnLetters (on : Bool) : List Char → Act Bool
  | [] => return false
  | c :: rest => do
      let asks ←
        if c = 'o' then pure true
        else if c ∈ optionLetters then do
          turn on c
          pure false
        else refuse ("Illegal option -" ++ c.toString)
      return (← turnLetters on rest) || asks

/-- Sets options from the front of arguments, and gives the other arguments and whether they replace
those of the shell even if there are none. A letter `c` is left to the caller where `starting`. -/
def setOptions (starting : Bool) : List String → Act (List String × Bool × Bool)
  | [] => return ([], false, false)
  | word :: rest => do
      let signed : Option Bool :=
        match word.toList with
        | '-' :: _ => some true
        | '+' :: _ => some false
        | _ => none
      match signed with
      | none => return (word :: rest, true, false)
      | some on =>
          if word = "--" then return (rest, true, false)
          if word = "-" then
            if !starting then
              turn false 'x'
              turn false 'v'
            return (rest, !rest.isEmpty, false)
          let chosen := word.toList.tail
          let asksText := starting && chosen.contains 'c'
          let asksName ← turnLetters on (if starting then chosen.filter (· ≠ 'c') else chosen)
          match asksName, rest with
          | true, name :: rest =>
              match optionNames.lookup name with
              | some letter =>
                  turn on letter
                  let (words, replaces, more) ← setOptions starting rest
                  return (words, replaces, asksText || more)
              | none => refuse ("Illegal option " ++ (if on then "-o " else "+o ") ++ name)
          | true, [] =>
              let shell ← get
              let lines := optionNames.map fun (name, letter) =>
                let state := shell.has letter
                if on then
                  name ++ String.ofList (List.replicate (16 - name.length) ' ')
                    ++ (if state then "on\n" else "off\n")
                else "set " ++ (if state then "-o " else "+o ") ++ name ++ "\n"
              put 1 ((if on then "Current option settings\n" else "") ++ String.join lines)
              return ([], false, asksText)
          | false, rest =>
              let (words, replaces, more) ← setOptions starting rest
              return (words, replaces, asksText || more)

/-- Shows variables, or sets options and arguments. -/
def setShell (args : List String) : Act Nat := do
  if args.isEmpty then showVariables "" fun _ => true
  else do
    let (words, replaces, _) ← setOptions false args
    if replaces then modify ({ · with args := words, optionPlace := 0 })
    return 0

/-- Takes the next option from arguments. The place in a word with several is remembered, and the
variable `OPTIND` counts words up to the one after it. -/
def nextOption (args : List String) : Act Nat := do
  match args with
  | known :: name :: rest =>
      let shell ← get
      let words := if rest.isEmpty then shell.args else rest
      let index := ((shell.value? "OPTIND").bind (·.toNat?)).getD 1
      let silent := known.startsWith ":"
      let finish := fun (place index : Nat) (answer : String) (argument : Option String)
          (status : Nat) => do
        match argument with
        | some text => assign "OPTARG" text
        | none => modify (·.dropVariable "OPTARG")
        assign "OPTIND" (toString index)
        modify ({ · with optionPlace := place })
        assign name answer
        return status
      let begun :=
        if shell.optionPlace = 0 ∨ index < 2 then []
        else (words[index - 2]?.getD "").toList.drop shell.optionPlace
      let ended := fun (index : Nat) => do
        assign "OPTIND" (toString index)
        modify ({ · with optionPlace := 0 })
        assign name "?"
        return 1
      let (letters, place, index) :=
        if begun.isEmpty then ((words[index - 1]?.getD "").toList, 0, index + 1)
        else ('-' :: begun, shell.optionPlace - 1, index)
      match letters with
      | ['-', '-'] => ended index
      | '-' :: c :: rest =>
          let place := if rest.isEmpty then 0 else place + 2
          let spot := known.toList.dropWhile (· ≠ c)
          if c = ':' ∨ spot.isEmpty then
            if silent then finish place index "?" (some c.toString) 0
            else do
              put 2 ("Illegal option -" ++ c.toString ++ "\n")
              finish place index "?" none 0
          else if spot[1]? ≠ some ':' then finish place index c.toString (some "") 0
          else if !rest.isEmpty then finish 0 index c.toString (some (String.ofList rest)) 0
          else
            match words[index - 1]? with
            | some argument => finish 0 (index + 1) c.toString (some argument) 0
            | none =>
                if silent then finish 0 index ":" (some c.toString) 0
                else do
                  put 2 ("No arg for -" ++ c.toString ++ " option\n")
                  finish 0 index "?" none 0
      | _ => ended (index - 1)
  | _ => refuse "usage: getopts optstring var [arg]"

end Act

end StraightLine.Sandbox
