/-!
# File errors

Why a file operation failed.
-/

namespace LaunchReplay

/-- The causes for which a file operation fails. -/
inductive FileError
  /-- A component of the path does not exist. -/
  | notFound
  /-- Something is already there. -/
  | alreadyExists
  /-- A component of the path, or what is to be listed, is a file. -/
  | notDirectory
  /-- What is to be read or written is a directory. -/
  | isDirectory
  /-- A component of the path, or all of it, is too long. -/
  | nameTooLong
  /-- The path has a null character in it. -/
  | nullCharacter
  /-- The content is not well-formed text. -/
  | malformedText
deriving DecidableEq, Repr

namespace FileError

/-- The text of a file error. -/
def message : FileError → String
  | notFound => "No such file or directory (os error 2)"
  | alreadyExists => "File exists (os error 17)"
  | notDirectory => "Not a directory (os error 20)"
  | isDirectory => "Is a directory (os error 21)"
  | nameTooLong => "File name too long (os error 36)"
  | nullCharacter => "file name contained an unexpected NUL byte"
  | malformedText => "stream did not contain valid UTF-8"

end FileError

end LaunchReplay
