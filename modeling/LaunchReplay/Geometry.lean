import LaunchReplay.Integer

/-!
# Launch geometry

The global size, local size and global offset of a launch, one line each. A local size of zeros
leaves the choice to the device.
-/

namespace LaunchReplay

/-- The index space of one launch. -/
structure Geometry where
  /-- Work items per dimension. -/
  globalSize : List Nat
  /-- Work items per group and dimension, all zero when the device chooses. -/
  localSize : List Nat
  /-- First work item per dimension. -/
  globalOffset : List Nat
deriving DecidableEq, Repr

namespace Geometry

open Text

/-- The number of dimensions. -/
def dimensions (geometry : Geometry) : Nat :=
  geometry.globalSize.length

/-- The local size, if the capture fixes one. -/
def explicitLocal? (geometry : Geometry) : Option (List Nat) :=
  if geometry.localSize.all (· == 0) then none else some geometry.localSize

/-- The geometry with the given lines, which must have one to three components each and agree. -/
def ofSizes (globalSize localSize globalOffset : List Nat) : Except DecodeError Geometry :=
  let dimensions := globalSize.length
  if dimensions = 0 ∨ 3 < dimensions then .error (.dimensionCount dimensions)
  else if localSize.length ≠ dimensions then
    .error (.dimensionMismatch "local size" localSize.length dimensions)
  else if globalOffset.length ≠ dimensions then
    .error (.dimensionMismatch "global offset" globalOffset.length dimensions)
  else .ok ⟨globalSize, localSize, globalOffset⟩

/-- The integers of one line of a geometry text. -/
def parseLine (name : String) (line : List Char) : Except DecodeError (List Nat) :=
  (tokens line).mapM (Integer.parse name)

/-- The integers of the line at the head of the remaining lines. -/
def nextLine (name : String) : List (List Char) → Except DecodeError (List Nat × List (List Char))
  | [] => .error (.missingLine name)
  | line :: rest => (parseLine name line).map (·, rest)

/-- Reads a geometry from the first three lines of a text. -/
def parse (text : String) : Except DecodeError Geometry := do
  let (globalSize, rest) ← nextLine "global size" (lines text.toList)
  let (localSize, rest) ← nextLine "local size" rest
  let (globalOffset, _) ← nextLine "global offset" rest
  ofSizes globalSize localSize globalOffset

/-- The one-line form of a geometry. -/
def describe (geometry : Geometry) : String :=
  let shownLocal :=
    match geometry.explicitLocal? with
    | none => "default"
    | some sizes => decimalList sizes
  decimal geometry.dimensions ++ "-D global=" ++ decimalList geometry.globalSize ++ " local=" ++
    shownLocal ++ " offset=" ++ decimalList geometry.globalOffset

end Geometry

end LaunchReplay
