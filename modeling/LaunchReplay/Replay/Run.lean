import LaunchReplay.Capture.Read
import LaunchReplay.Replay.Acquisition
import LaunchReplay.Replay.Outputs
import LaunchReplay.Replay.Summary

/-!
# Replaying a capture

All work on the device is done before any file is written: build the program, bind the arguments,
launch, read back. Only then are the outputs written, if there are any.
-/

namespace LaunchReplay

/-- How a capture is to be replayed. -/
structure ReplayConfig where
  /-- Number of launches in a row. -/
  repetitions : Nat := 1
  /-- Whether buffers are bound as shared memory whatever offsets are recorded. -/
  forceSvm : Bool := false
  /-- Whether outputs are written. -/
  writeOutputs : Bool := true
  /-- Directory of outputs, from the capture directory. -/
  testDirectory : Path := ⟨Naming.testDirectory⟩
deriving DecidableEq, Repr

/-- What a replay did on the device. -/
structure DeviceReplay where
  /-- The program. -/
  acquired : AcquiredProgram
  /-- Number of launches. -/
  enqueues : Nat
  /-- Outputs in ascending position. -/
  outputs : List Output
  /-- What was worth reporting, in order. -/
  notices : List Notice
  /-- What the device says about itself. -/
  device : DeviceInfo
deriving DecidableEq, Repr

namespace DeviceReplay

variable {σ : Type} [Device σ]

/-- Does all work of a replay on the device. -/
def perform (config : ReplayConfig) (capture : Capture) :
    DeviceM σ ReplayError DeviceReplay := do
  let plan := AliasPlan.resolve capture.arguments
  let acquired ← capture.program.acquire capture.launch
  let bindings ← Bindings.create capture.arguments plan acquired.kernel
  let enqueues ← Output.execute acquired.kernel capture.launch.geometry config.repetitions
  let outputs ← Output.readBack bindings.outputs
  let device ← DeviceM.info
  pure
    { acquired
      enqueues
      outputs
      notices := capture.notices ++ plan.notices ++ acquired.notices
      device }

/-- The records of outputs with the paths to which they were written. -/
def records (outputs : List Output) (paths : List (Option Path)) : List OutputRecord :=
  outputs.zipWith
    (fun output path =>
      ⟨output.position, output.kind, output.bytes.length, .ofContent output.bytes, path⟩)
    paths

/-- The summary of a replay whose outputs were written to some paths. -/
def summary (replay : DeviceReplay) (launch : Launch) (paths : List (Option Path)) :
    ReplaySummary where
  enqueue := launch.enqueue
  kernelName := launch.kernelName
  device := replay.device.describe
  tier := replay.acquired.tier.label
  selectedBinary := replay.acquired.selected
  geometry := launch.geometry.describe
  enqueues := replay.enqueues
  outputs := records replay.outputs paths
  notices := replay.notices

end DeviceReplay

namespace Replay

/-- The paths to which the outputs of a replay were written, after writing them if that is asked
for and there are any. -/
def write (config : ReplayConfig) (capture : Capture) (outputs : List Output) (tree : FileTree) :
    Except ReplayError (List (Option Path)) × FileTree :=
  if config.writeOutputs && !outputs.isEmpty then
    match Output.writeAll (capture.root.join config.testDirectory) capture.launch.enqueue
        capture.launch.kernelName outputs tree with
    | (.ok paths, written) => (.ok (paths.map some), written)
    | (.error error, written) => (.error error, written)
  else (.ok (outputs.map fun _ => none), tree)

variable {σ : Type} [Device σ]

/-- Replays a capture on a device and writes the outputs into a file tree. -/
def replay (config : ReplayConfig) (capture : Capture) (tree : FileTree) (device : σ) :
    Except ReplayError ReplaySummary × FileTree × σ :=
  match DeviceReplay.perform config capture device with
  | (.error error, used) => (.error error, tree, used)
  | (.ok replayed, used) =>
    match write config capture replayed.outputs tree with
    | (.error error, written) => (.error error, written, used)
    | (.ok paths, written) => (.ok (replayed.summary capture.launch paths), written, used)

/-- Reads a capture directory and replays what it holds. -/
def run (config : ReplayConfig) (root : Path) (tree : FileTree) (device : σ) :
    Except ReplayError ReplaySummary × FileTree × σ :=
  match Capture.read tree root ⟨config.forceSvm⟩ with
  | .error error => (.error (.capture error), tree, device)
  | .ok capture => replay config capture tree device

end Replay

end LaunchReplay
