import LaunchReplay.Capture.Artifact
import LaunchReplay.Capture.Basic
import LaunchReplay.Naming.Artifact

/-!
# Reading the launch and its program

The four files that identify a launch are read in a fixed order, of which the first that is missing
or malformed is reported. Of the forms of the program the first that is present is taken: source
text, the intermediate form, device binaries.
-/

namespace LaunchReplay

open Text

namespace Enqueue

/-- Reads the index of the captured enqueue. -/
def read (tree : FileTree) (root : Path) : Except CaptureError Enqueue := do
  let path := root.child Naming.enqueueNumberFile
  let text ← Artifact.text tree path
  let index ← Artifact.decoded path (Integer.parse "enqueue number" (firstLine text.toList))
  .ok ⟨index⟩

end Enqueue

namespace Launch

/-- The build options in a text, one per line, without blank lines. -/
def parseOptions (text : String) : List String :=
  (((lines text.toList).map trimEnd).filter (!·.isEmpty)).map String.ofList

/-- Reads which launch was captured. -/
def read (tree : FileTree) (root : Path) : Except CaptureError Launch := do
  let enqueue ← Enqueue.read tree root
  let kernelName ← Artifact.text tree (root.child Naming.kernelNameFile)
  let buildOptions ← Artifact.text tree (root.child Naming.buildOptionsFile)
  let geometryPath := root.child Naming.workSizesFile
  let geometry ← Artifact.decoded geometryPath
    (Geometry.parse (← Artifact.text tree geometryPath))
  .ok
    { enqueue
      kernelName := String.ofList (dropFinalLineEnd kernelName.toList)
      buildOptions := parseOptions buildOptions
      geometry }

end Launch

namespace Program

/-- What is reported as missing if a capture has no program. -/
def anyForm : String :=
  Naming.sourceFile ++ " | " ++ Naming.intermediateFile ++ " | " ++ FilePattern.deviceBinary.glob

/-- Reads the device binaries of a capture. -/
def readBinaries (tree : FileTree) (root : Path) : Except CaptureError (List NamedBlob) := do
  (← Artifact.names tree root .deviceBinary).mapM fun name =>
    (Artifact.bytes tree (root.child name)).map (NamedBlob.mk name)

/-- Reads the program of a capture. -/
def read (tree : FileTree) (root : Path) : Except CaptureError Program := do
  if tree.isFile (root.child Naming.sourceFile) then
    (Artifact.text tree (root.child Naming.sourceFile)).map .source
  else if tree.isFile (root.child Naming.intermediateFile) then
    (Artifact.bytes tree (root.child Naming.intermediateFile)).map .intermediate
  else
    match ← readBinaries tree root with
    | [] => .error (.missing (root.child anyForm))
    | candidates => .ok (.binaries candidates)

end Program

end LaunchReplay
