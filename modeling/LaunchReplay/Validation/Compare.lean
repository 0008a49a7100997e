import LaunchReplay.Capture.Launch
import LaunchReplay.Validation.ArgumentTypes
import LaunchReplay.Validation.DigestSet
import LaunchReplay.Validation.Report

/-!
# Comparing outputs

The replayed and the captured outputs of an enqueue are compared by digest, at every position that
either side has. A position that one side lacks is a difference.
-/

namespace LaunchReplay

/-- Where the outputs to be compared are. -/
structure ValidationConfig where
  /-- Directory of replayed outputs, from the capture directory. -/
  testDirectory : Path := ⟨Naming.testDirectory⟩
  /-- Directory of captured outputs, from the capture directory. -/
  postDirectory : Path := ⟨Naming.postDirectory⟩
deriving DecidableEq, Repr

namespace Validation

/-- The positions that either of two sets has, ascending. -/
def positionsOfEither (replayed captured : DigestSet) : List Nat :=
  (PositionMap.ofList ((replayed.positions ++ captured.positions).map (·, ()))).positions

/-- Whether two digests are there and the same. -/
def agree : Option Digest → Option Digest → Bool
  | some replayed, some captured => replayed == captured
  | _, _ => false

/-- The check of one position. -/
def check (types : Option ArgumentTypes) (replayed captured : DigestSet) (position : Nat) :
    PositionCheck :=
  let ours := (replayed.get? position).map (·.digest)
  let theirs := (captured.get? position).map (·.digest)
  let equal := agree ours theirs
  { position
    replayed := ours.map Digest.hex
    captured := theirs.map Digest.hex
    equal
    dataType := if equal then none else types.bind (·.get? position) }

/-- The notice about missing argument types. -/
def typesNotices : Option ArgumentTypes → List Notice
  | none => [.optionalMetadataAbsent Naming.argumentTypesFile]
  | some _ => []

/-- The report on two sets of digests. -/
def report (enqueue : Enqueue) (types : Option ArgumentTypes) (replayed captured : DigestSet) :
    ValidationReport :=
  let checks := (positionsOfEither replayed captured).map (check types replayed captured)
  .ofChecks enqueue checks
    (typesNotices types ++ (checks.filter (!·.equal)).map PositionCheck.mismatchNotice)

/-- Compares the outputs of an enqueue. -/
def compare (config : ValidationConfig) (root : Path) (tree : FileTree) (enqueue : Enqueue) :
    Except ValidationError ValidationReport := do
  let replayed ← DigestSet.replayed tree (root.join config.testDirectory) enqueue
  let captured ← DigestSet.captured tree (root.join config.postDirectory) enqueue
  let types ← (ArgumentTypes.read tree (root.child Naming.argumentTypesFile)).mapError .capture
  .ok (report enqueue types replayed captured)

/-- Compares the outputs of the captured enqueue. -/
def run (config : ValidationConfig) (root : Path) (tree : FileTree) :
    Except ValidationError ValidationReport := do
  let enqueue ← (Enqueue.read tree root).mapError .capture
  compare config root tree enqueue

end Validation

end LaunchReplay
