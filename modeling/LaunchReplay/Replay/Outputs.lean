import LaunchReplay.FileTree.Change
import LaunchReplay.Replay.Bindings

/-!
# Launching and collecting outputs

The kernel is launched one or more times in a row, then all outputs are read back at once, then
each is written under its own name.
-/

namespace LaunchReplay

/-- The content of an output after the launch. -/
structure Output where
  /-- Position of the argument. -/
  position : Nat
  /-- Kind of output file. -/
  kind : OutputKind
  /-- Content. -/
  bytes : Bytes
deriving DecidableEq, Repr

namespace Output

variable {σ : Type} [Device σ]

/-- Launches a kernel a number of times. -/
def launchTimes (kernel : Handle .kernel) (geometry : Geometry) :
    Nat → DeviceM σ ReplayError Unit
  | 0 => pure ()
  | more + 1 => do
    DeviceM.ask .device (.launch kernel geometry)
    launchTimes kernel geometry more

/-- Launches a kernel one or more times, and gives their number. -/
def execute (kernel : Handle .kernel) (geometry : Geometry) (repetitions : Nat) :
    DeviceM σ ReplayError Nat := do
  if repetitions = 0 then throw .noRepetitions
  launchTimes kernel geometry repetitions
  pure repetitions

/-- Reads all outputs back. -/
def readBack (slots : List OutputSlot) : DeviceM σ ReplayError (List Output) := do
  let contents ← DeviceM.ask .device (.readBack (slots.map (·.request)))
  pure (slots.zipWith (fun slot bytes => ⟨slot.position, slot.kind, bytes⟩) contents)

/-- The path to which an output is written. -/
def path (directory : Path) (enqueue : Enqueue) (kernelName : String) (output : Output) : Path :=
  directory.child (Naming.outputName enqueue kernelName output.position output.kind)

/-- Writes outputs in order, each to its target, up to the first that cannot be written. -/
def writeTo (target : Output → Path) (tree : FileTree) :
    List Output → Except ReplayError (List Path) × FileTree
  | [] => (.ok [], tree)
  | output :: rest =>
    match tree.writeFile (target output) output.bytes with
    | .error reason => (.error (.output (target output) reason), tree)
    | .ok written =>
      match writeTo target written rest with
      | (.ok paths, final) => (.ok (target output :: paths), final)
      | (.error error, final) => (.error error, final)

/-- Writes outputs in order into a directory, up to the first that cannot be written. -/
def writeEach (directory : Path) (enqueue : Enqueue) (kernelName : String) (tree : FileTree)
    (outputs : List Output) : Except ReplayError (List Path) × FileTree :=
  writeTo (path directory enqueue kernelName) tree outputs

/-- Writes outputs into a directory, which is made first. -/
def writeAll (directory : Path) (enqueue : Enqueue) (kernelName : String) (outputs : List Output)
    (tree : FileTree) : Except ReplayError (List Path) × FileTree :=
  match tree.ensureDirectories directory with
  | (.error reason, made) => (.error (.output directory reason), made)
  | (.ok (), made) => writeEach directory enqueue kernelName made outputs

end Output

end LaunchReplay
