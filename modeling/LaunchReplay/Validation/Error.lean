import LaunchReplay.Capture.Error

/-!
# Validation errors

Why outputs could not be compared.
-/

namespace LaunchReplay

/-- The causes for which a validation fails. -/
inductive ValidationError
  /-- A file of the capture cannot be read. -/
  | capture (error : CaptureError)
  /-- An output cannot be digested. -/
  | digest (path : Path) (reason : FileError)
deriving DecidableEq, Repr

namespace ValidationError

/-- The text of a validation error. -/
def message : ValidationError → String
  | capture error => error.message
  | digest path reason => "Cannot digest " ++ path.text ++ ": " ++ reason.message

end ValidationError

end LaunchReplay
