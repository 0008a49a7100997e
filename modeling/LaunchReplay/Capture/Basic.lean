import LaunchReplay.Argument.Table
import LaunchReplay.Enqueue
import LaunchReplay.FileTree.Path
import LaunchReplay.Geometry
import LaunchReplay.Notice
import LaunchReplay.Program

/-!
# Captures

All that a capture directory holds about one kernel launch.
-/

namespace LaunchReplay

/-- Which launch was captured, and how its program is to be built. -/
structure Launch where
  /-- Index of the enqueue. -/
  enqueue : Enqueue
  /-- Name of the entry point. -/
  kernelName : String
  /-- Build options, in order. -/
  buildOptions : List String
  /-- Index space. -/
  geometry : Geometry
deriving DecidableEq, Repr

namespace Launch

/-- The build options in one text. -/
def optionString (launch : Launch) : String :=
  String.intercalate " " launch.buildOptions

end Launch

/-- A decoded capture directory. -/
structure Capture where
  /-- The directory. -/
  root : Path
  /-- Which launch was captured. -/
  launch : Launch
  /-- Its arguments. -/
  arguments : ArgumentTable
  /-- Its program. -/
  program : Program
  /-- Whether buffers are bound as shared memory. -/
  svmActive : Bool
  /-- What was worth reporting while the directory was read. -/
  notices : List Notice
deriving DecidableEq

namespace Capture

/-- The positions of the outputs, ascending. -/
def outputPositions (capture : Capture) : List Nat :=
  ArgumentTable.outputPositions capture.arguments

end Capture

end LaunchReplay
