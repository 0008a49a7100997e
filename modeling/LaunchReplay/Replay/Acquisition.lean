import LaunchReplay.Capture.Basic
import LaunchReplay.Device.Basic
import LaunchReplay.Naming.Pattern
import LaunchReplay.Replay.Error

/-!
# Acquiring the program

Source text and the intermediate form are built once, and any error ends the replay. Device
binaries are tried in order until one can be built and has the entry point.
-/

namespace LaunchReplay

/-- A built program with the kernel of the entry point. -/
structure AcquiredProgram where
  /-- Form that was built. -/
  tier : ProgramTier
  /-- The program. -/
  program : Handle .program
  /-- The kernel. -/
  kernel : Handle .kernel
  /-- Name of the device binary, if it was one. -/
  selected : Option String
  /-- All device binaries that were tried, the accepted one last. -/
  attempts : List BinaryAttempt
deriving DecidableEq, Repr

namespace AcquiredProgram

/-- The notices about rejected device binaries. -/
def notices (acquired : AcquiredProgram) : List Notice :=
  acquired.attempts.filterMap BinaryAttempt.notice?

variable {σ : Type} [Device σ]

/-- Builds the only form of a program. -/
def ofImage (launch : Launch) (image : ProgramImage) : DeviceM σ ReplayError AcquiredProgram := do
  let program ← DeviceM.ask (.ofBuild image.tier) (.buildProgram image launch.optionString)
  let kernel ← DeviceM.ask .device (.createKernel program launch.kernelName)
  pure ⟨image.tier, program, kernel, none, []⟩

/-- Builds one device binary and makes its kernel. -/
def tryBinary (launch : Launch) (blob : NamedBlob) :
    DeviceM σ ReplayError (Except DeviceError (Handle .program × Handle .kernel)) := do
  match ← DeviceM.attempt (.buildProgram (.binary blob.bytes) launch.optionString) with
  | .error error => pure (.error error)
  | .ok program =>
    match ← DeviceM.attempt (.createKernel program launch.kernelName) with
    | .error error => pure (.error error)
    | .ok kernel => pure (.ok (program, kernel))

/-- Tries device binaries in order, after some that were rejected. -/
def ofBinaries (launch : Launch) (rejected : List BinaryAttempt) :
    List NamedBlob → DeviceM σ ReplayError AcquiredProgram
  | [] => throw (.noUsableBinary rejected)
  | blob :: rest => do
    match ← tryBinary launch blob with
    | .ok (program, kernel) =>
      pure ⟨.binary, program, kernel, some blob.name, rejected ++ [⟨blob.name, .built⟩]⟩
    | .error error => ofBinaries launch (rejected ++ [⟨blob.name, .ofError error⟩]) rest

end AcquiredProgram

/-- Builds the program of a capture and makes its kernel. -/
def Program.acquire {σ : Type} [Device σ] (launch : Launch) :
    Program → DeviceM σ ReplayError AcquiredProgram
  | .source text => AcquiredProgram.ofImage launch (.source text)
  | .intermediate bytes => AcquiredProgram.ofImage launch (.intermediate bytes)
  | .binaries [] => throw (.capture (.missing ⟨FilePattern.deviceBinary.glob⟩))
  | .binaries candidates => AcquiredProgram.ofBinaries launch [] candidates

end LaunchReplay
