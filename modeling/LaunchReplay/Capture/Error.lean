import LaunchReplay.DecodeError
import LaunchReplay.FileTree.Path

/-!
# Capture errors

Why a capture directory could not be read.
-/

namespace LaunchReplay

/-- The causes for which a capture directory is refused. -/
inductive CaptureError
  /-- An artifact is absent. -/
  | missing (path : Path)
  /-- An artifact cannot be read. -/
  | unreadable (path : Path) (reason : FileError)
  /-- An artifact cannot be decoded. -/
  | malformed (path : Path) (cause : DecodeError)
  /-- Two files of one group have the same position. -/
  | duplicate (position : Nat) (first second : Path)
  /-- A product on the way to the byte size of an image does not fit in a 64-bit word. This stands
  for the abort at that multiplication: no caller gets it as an error. -/
  | sizeOverflow
deriving DecidableEq, Repr

namespace CaptureError

/-- The text of a capture error. -/
def message : CaptureError → String
  | missing path => "Missing artifact: " ++ path.text
  | unreadable path reason => "IO error on " ++ path.text ++ ": " ++ reason.message
  | malformed path cause => "Malformed artifact " ++ path.text ++ ": " ++ cause.message
  | duplicate position first second =>
    "Duplicate artifacts for argument " ++ Text.decimal position ++ ": " ++ first.text ++ " and " ++
      second.text
  | sizeOverflow => DecodeError.sizeOverflow.message

/-- The error about a file that could not be read. -/
def ofFile (path : Path) : FileError → CaptureError
  | .notFound => .missing path
  | reason => .unreadable path reason

/-- The error about a file that could not be decoded. -/
def ofDecode (path : Path) : DecodeError → CaptureError
  | .sizeOverflow => .sizeOverflow
  | cause => .malformed path cause

end CaptureError

end LaunchReplay
