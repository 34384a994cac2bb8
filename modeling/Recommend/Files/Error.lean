/-!
What can go wrong with a file.
-/

namespace Recommend

/-- Why a file or a directory cannot be looked at, read or written. -/
inductive FileError where
  | notFound
  | alreadyExists
  | notADirectory
  | isADirectory
  /-- A name, or the path as a whole, is longer than paths may be. -/
  | nameTooLong
  /-- The path holds a null byte, which no name can. -/
  | nullInName
  /-- The content is not UTF-8. -/
  | notText
  deriving DecidableEq

/-- The text of a failure, as the operating system has it. -/
def FileError.message : FileError → String
  | notFound => "No such file or directory (os error 2)"
  | alreadyExists => "File exists (os error 17)"
  | notADirectory => "Not a directory (os error 20)"
  | isADirectory => "Is a directory (os error 21)"
  | nameTooLong => "File name too long (os error 36)"
  | nullInName => "file name contained an unexpected NUL byte"
  | notText => "stream did not contain valid UTF-8"

end Recommend
