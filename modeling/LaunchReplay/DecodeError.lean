import LaunchReplay.Argument.Kind
import LaunchReplay.Text.Quoted

/-!
# Decoding errors

Why a captured value could not be decoded, and what is said about it.
-/

namespace LaunchReplay

/-- The causes for which a captured value is refused. -/
inductive DecodeError
  /-- The text of a field is no integer of its range. -/
  | invalidInteger (field value : String)
  /-- A line of the launch geometry is absent. -/
  | missingLine (name : String)
  /-- The global size has no component, or more than three. -/
  | dimensionCount (count : Nat)
  /-- A line of the launch geometry has another length than the global size. -/
  | dimensionMismatch (name : String) (count dimensions : Nat)
  /-- The image metadata has too few lines. -/
  | metadataLines (count expected : Nat)
  /-- The content of an image has another length than its descriptor says. -/
  | contentLength (length expected : Nat)
  /-- A product on the way to the byte size of an image does not fit in a 64-bit word. The program
  is one that is built with overflow checks: the multiplication ends it, and no caller gets this as
  an error. -/
  | sizeOverflow
  /-- A position was claimed for two kinds. -/
  | conflictingKind (position : Nat) (first second : ArgumentKind)
deriving DecidableEq, Repr

namespace DecodeError

open Text

/-- The text of an error about the launch geometry. -/
private def geometryMessage (reason : String) : String :=
  "Invalid launch geometry: " ++ reason

/-- The text of an error about image metadata. -/
private def imageMessage (reason : String) : String :=
  "Invalid image metadata: " ++ reason

/-- The text of a decoding error. -/
def message : DecodeError → String
  | invalidInteger field value => "Invalid integer in " ++ field ++ ": " ++ quoted value
  | missingLine name => geometryMessage ("missing " ++ name ++ " line")
  | dimensionCount count =>
    geometryMessage ("global size has " ++ decimal count ++ " components, expected 1 to 3")
  | dimensionMismatch name count dimensions =>
    geometryMessage (name ++ " has " ++ decimal count ++ " components but global size has " ++
      decimal dimensions)
  | metadataLines count expected =>
    imageMessage ("metadata has " ++ decimal count ++ " lines, expected " ++ decimal expected)
  | contentLength length expected =>
    imageMessage ("content is " ++ decimal length ++ " bytes, descriptor needs " ++
      decimal expected)
  | sizeOverflow => "attempt to multiply with overflow"
  | conflictingKind position first second =>
    "Argument " ++ decimal position ++ " claimed as both " ++ first.label ++ " and " ++
      second.label

end DecodeError

end LaunchReplay
