/-!
# Failures of the file system

The ways in which reading or writing files fails, with the texts that the system gives them.
-/

namespace ExceptionStubs

inductive IoFailure where
  | notFound
  | fileExists
  | notADirectory
  | isADirectory
  | nameTooLong
  | nullInPath
  | invalidText
deriving DecidableEq, Repr

def IoFailure.message : IoFailure → String
  | .notFound => "No such file or directory (os error 2)"
  | .fileExists => "File exists (os error 17)"
  | .notADirectory => "Not a directory (os error 20)"
  | .isADirectory => "Is a directory (os error 21)"
  | .nameTooLong => "File name too long (os error 36)"
  | .nullInPath => "file name contained an unexpected NUL byte"
  | .invalidText => "stream did not contain valid UTF-8"

end ExceptionStubs
