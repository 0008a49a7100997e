import LaunchReplay.Capture.Arguments
import LaunchReplay.Capture.Launch

/-!
# Reading a capture directory

The launch is read first, then its arguments, then its program; the first error ends the reading.
-/

namespace LaunchReplay.Capture

/-- Reads a capture directory. -/
def read (tree : FileTree) (root : Path) (options : ReadOptions) : Except CaptureError Capture := do
  let launch ← Launch.read tree root
  let records ← ArgumentRecords.read tree root
  let svmActive := records.svmActive options
  let arguments ← ArgumentTable.read tree root launch.enqueue records svmActive
  let program ← Program.read tree root
  .ok
    { root
      launch
      arguments
      program
      svmActive
      notices := records.notices options ++ ArgumentTable.imageNotices arguments }

end LaunchReplay.Capture
