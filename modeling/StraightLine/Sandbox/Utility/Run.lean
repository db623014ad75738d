import StraightLine.Sandbox.Condition
import StraightLine.Sandbox.Utility.Lines

/-! What every program that a machine has does. Those that start others are left to the shell. -/

namespace StraightLine.Sandbox

def Setting.test (setting : Setting) (words : List String) : Effect :=
  let bracketed := baseName setting.self = "["
  let fail := fun (text : String) => setting.leave 2 "" (setting.complaint text)
  if bracketed ∧ words.getLast? ≠ some "]" then fail "missing ']'"
  else
    let words := if bracketed then words.dropLast else words
    let condition : ConditionSetting := ⟨setting.tree, setting.directory⟩
    match condition.holds (words.length + 1) words with
    | .ok truth => setting.leave (if truth then 0 else 1) "" ""
    | .error reason =>
        match reason.splitOn ": ", words with
        | ["Illegal number", word], _ => fail ("invalid integer " ++ quotedName word)
        | _, [_, second] => fail ("missing argument after " ++ quotedName second)
        | _, [_, second, _] => fail (quotedName second ++ ": binary operator expected")
        | _, words => fail ("extra argument " ++ quotedName (words.getLastD ""))

/-- Whether a program writes as it goes, so that its complaints come after what it wrote before. -/
def Utility.writesAtOnce (utility : Utility) : Bool :=
  utility = .cat || utility = .tee

def Utility.run (utility : Utility) (setting : Setting) (words : List String) : Effect :=
  match utility with
  | .baseName => setting.baseNames words
  | .cat => setting.cat words
  | .changeMode => setting.changeMode words
  | .copy => setting.copy words
  | .count => setting.count words
  | .cut => setting.cut words
  | .directoryName => setting.directoryNames words
  | .echo => setting.echo words
  | .env => setting.leave 0 "" ""
  | .fail => setting.leave 1 "" ""
  | .grep => setting.grep words
  | .head => setting.head words
  | .link => setting.link words
  | .list => setting.list words
  | .makeDirectory => setting.makeDirectories words
  | .move => setting.move words
  | .print => setting.print words
  | .printDirectory => setting.printDirectory words
  | .readLink => setting.readLink words
  | .remove => setting.remove words
  | .removeDirectory => setting.removeDirectories words
  | .sequence => setting.sequence words
  | .shell => setting.leave 0 "" ""
  | .sleep => setting.sleep words
  | .sort => setting.sort words
  | .succeed => setting.leave 0 "" ""
  | .tail => setting.tail words
  | .tee => setting.tee words
  | .test => setting.test words
  | .touch => setting.touch words
  | .translate => setting.translate words
  | .unique => setting.unique words

end StraightLine.Sandbox
