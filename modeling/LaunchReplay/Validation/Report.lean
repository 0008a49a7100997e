import LaunchReplay.Enqueue
import LaunchReplay.Notice

/-!
# Validation reports

The outcome of a comparison: one check per position, the verdict over all of them, and what was
worth reporting.
-/

namespace LaunchReplay

open Text

/-- The verdict over all outputs. -/
inductive Verdict
  /-- All outputs are equal. -/
  | allEqual
  /-- Some output differs. -/
  | mismatch
deriving DecidableEq, Repr

namespace Verdict

/-- The text of a verdict. -/
def message : Verdict → String
  | allEqual => "Replayed kernel produces identical results."
  | mismatch =>
    "Replayed kernel differs from the captured results. Floating-point operations may have been " ++
      "reordered; check whether the differences are significant."

end Verdict

/-- The comparison at one position. -/
structure PositionCheck where
  /-- Position of the argument. -/
  position : Nat
  /-- Digest of the replayed output, if there is one. -/
  replayed : Option String
  /-- Digest of the captured output, if there is one. -/
  captured : Option String
  /-- Whether both are there and the same. -/
  equal : Bool
  /-- Data type of an argument whose outputs differ, if it is known. -/
  dataType : Option String
deriving DecidableEq, Repr

namespace PositionCheck

/-- The notice about outputs that differ. -/
def mismatchNotice (check : PositionCheck) : Notice :=
  .validationMismatch check.position check.dataType

/-- The line about a check. -/
def line (check : PositionCheck) : String :=
  if check.equal then "Check: Argument " ++ decimal check.position ++ " is equal."
  else "Check: " ++ check.mismatchNotice.message ++ "!"

end PositionCheck

/-- The outcome of a comparison. -/
structure ValidationReport where
  /-- Index of the enqueue. -/
  enqueue : Enqueue
  /-- Checks in ascending position. -/
  checks : List PositionCheck
  /-- Verdict over all checks. -/
  verdict : Verdict
  /-- What was worth reporting, in order. -/
  notices : List Notice
deriving DecidableEq, Repr

namespace ValidationReport

/-- The verdict over some checks. -/
def verdictOf (checks : List PositionCheck) : Verdict :=
  if checks.all (·.equal) then .allEqual else .mismatch

/-- The report on some checks. -/
def ofChecks (enqueue : Enqueue) (checks : List PositionCheck) (notices : List Notice) :
    ValidationReport :=
  ⟨enqueue, checks, verdictOf checks, notices⟩

/-- The positions whose outputs differ. -/
def mismatches (report : ValidationReport) : List Nat :=
  (report.checks.filter (!·.equal)).map (·.position)

/-- Whether the verdict is that all outputs are equal. -/
def isEqual (report : ValidationReport) : Bool :=
  report.verdict == .allEqual

/-- The lines of a report. -/
def lines (report : ValidationReport) : List String :=
  report.notices.map Notice.message ++ report.checks.map PositionCheck.line ++
    [report.verdict.message]

end ValidationReport

end LaunchReplay
