import LaunchReplay.Digest.Basic
import LaunchReplay.Enqueue
import LaunchReplay.FileTree.Path
import LaunchReplay.Naming.Pattern
import LaunchReplay.Notice

/-!
# Replay summaries

What one replay did, and the lines in which it is reported.
-/

namespace LaunchReplay

open Text

/-- One output of a replay. -/
structure OutputRecord where
  /-- Position of the argument. -/
  position : Nat
  /-- Kind of output file. -/
  kind : OutputKind
  /-- Number of bytes. -/
  length : Nat
  /-- Digest of the content. -/
  digest : Digest
  /-- File to which it was written, if it was. -/
  path : Option Path
deriving DecidableEq

namespace OutputRecord

/-- The line about an output. -/
def line (record : OutputRecord) : String :=
  "Argument " ++ decimal record.position ++ " " ++ record.kind.label ++ " " ++
    decimal record.length ++ " bytes " ++ record.digest.short

end OutputRecord

/-- What one replay did. -/
structure ReplaySummary where
  /-- Index of the enqueue. -/
  enqueue : Enqueue
  /-- Name of the entry point. -/
  kernelName : String
  /-- What the device says about itself. -/
  device : String
  /-- Name of the form that was built. -/
  tier : String
  /-- Name of the device binary, if it was one. -/
  selectedBinary : Option String
  /-- Index space. -/
  geometry : String
  /-- Number of launches. -/
  enqueues : Nat
  /-- Outputs in ascending position. -/
  outputs : List OutputRecord
  /-- What was worth reporting, in order. -/
  notices : List Notice
deriving DecidableEq

namespace ReplaySummary

/-- The line about what was replayed. -/
def headline (summary : ReplaySummary) : String :=
  let binary :=
    match summary.selectedBinary with
    | some name => " (" ++ name ++ ")"
    | none => ""
  "Replayed enqueue " ++ summary.enqueue.describe ++ " kernel " ++ summary.kernelName ++ " on " ++
    summary.device ++ " from " ++ summary.tier ++ binary

/-- The line about the launches. -/
def geometryLine (summary : ReplaySummary) : String :=
  decimal summary.enqueues ++ " x " ++ summary.geometry

/-- The lines about what was replayed, without notices. -/
def resultLines (summary : ReplaySummary) : List String :=
  summary.headline :: summary.geometryLine :: summary.outputs.map OutputRecord.line

/-- All lines of a summary. -/
def lines (summary : ReplaySummary) : List String :=
  summary.resultLines ++ summary.notices.map Notice.message

end ReplaySummary

end LaunchReplay
