import LaunchReplay.Text.Numeral

/-!
# Notices

Conditions that are worth reporting and do not end a run. They are kept in the order in which they
arose.
-/

namespace LaunchReplay

open Text

/-- A condition worth reporting. -/
inductive Notice
  /-- Several arguments shared one allocation. -/
  | aliasGroup (positions : List Nat)
  /-- Recorded offsets made buffers into shared memory. -/
  | svmForced (positions : List Nat)
  /-- The type code of an image is not known. -/
  | imageTypeFallback (position code : Nat)
  /-- A device binary was not usable. -/
  | binaryRejected (candidate reason : String)
  /-- An optional artifact is absent. -/
  | optionalMetadataAbsent (artifact : String)
  /-- A replayed output differs from the captured one. -/
  | validationMismatch (position : Nat) (dataType : Option String)
deriving DecidableEq, Repr

namespace Notice

/-- The text of a notice. -/
def message : Notice → String
  | aliasGroup positions =>
    "Arguments " ++ decimalList positions ++ " alias one buffer; the aliasing is replicated"
  | svmForced positions =>
    "Non-zero SVM offsets at " ++ decimalList positions ++ "; binding buffers as SVM"
  | imageTypeFallback position code =>
    "Image argument " ++ decimal position ++ " has unknown type code 0x" ++ hexadecimal code ++
      "; using 3-D shape"
  | binaryRejected candidate reason => "Device binary " ++ candidate ++ " rejected: " ++ reason
  | optionalMetadataAbsent artifact => "Optional " ++ artifact ++ " not available"
  | validationMismatch position (some dataType) =>
    "Argument " ++ decimal position ++ " is not equal, data type=" ++ dataType
  | validationMismatch position none => "Argument " ++ decimal position ++ " is not equal"

end Notice

end LaunchReplay
