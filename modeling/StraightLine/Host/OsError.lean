import StraightLine.Text.Quoted

/-! The ways in which the operating system refuses a request. -/

namespace StraightLine

/-- Why a request to the operating system failed. The last four are not refusals of the system
itself: a path it cannot be asked about, a program it cannot be asked to run, a file that holds no
text, and an error that also names the path it arose at. -/
inductive OsError where
  | notFound
  | noExecutableFormat
  | badDescriptor
  | permissionDenied
  | alreadyExists
  | notDirectory
  | isDirectory
  | invalidArgument
  | nameTooLong
  | unsupported
  | notEmpty
  | tooManyLinks
  | nulInPath
  | nulInRequest
  | notText
  | atPath (error : OsError) (path : String)
  deriving DecidableEq, Repr

/-- What the system calls an error, and the error's number. -/
def OsError.reason : OsError → String × Option Nat
  | .notFound => ("No such file or directory", some 2)
  | .noExecutableFormat => ("Exec format error", some 8)
  | .badDescriptor => ("Bad file descriptor", some 9)
  | .permissionDenied => ("Permission denied", some 13)
  | .alreadyExists => ("File exists", some 17)
  | .notDirectory => ("Not a directory", some 20)
  | .isDirectory => ("Is a directory", some 21)
  | .invalidArgument => ("Invalid argument", some 22)
  | .nameTooLong => ("File name too long", some 36)
  | .unsupported => ("Function not implemented", some 38)
  | .notEmpty => ("Directory not empty", some 39)
  | .tooManyLinks => ("Too many levels of symbolic links", some 40)
  | .nulInPath => ("file name contained an unexpected NUL byte", none)
  | .nulInRequest => ("nul byte found in provided data", none)
  | .notText => ("stream did not contain valid UTF-8", none)
  | .atPath error _ => error.reason

def OsError.message : OsError → String
  | .atPath error path => error.message ++ " at path " ++ Text.quoted path
  | error =>
      match error.reason with
      | (reason, some number) => reason ++ " (os error " ++ toString number ++ ")"
      | (reason, none) => reason

end StraightLine
