import LaunchReplay.Capture.Artifact
import LaunchReplay.Capture.Basic
import LaunchReplay.Naming.Artifact

/-!
# Reading the arguments

Each kind of argument has a group of files. Buffers, images, samplers and local memory claim their
positions in this order; a recorded value is the identity token of a buffer, and an argument of its
own only where no other kind has claimed the position. A recorded offset that is not zero makes
shared memory of all buffers.
-/

namespace LaunchReplay

open Text

/-- How a capture directory is to be read. -/
structure ReadOptions where
  /-- Whether buffers are bound as shared memory whatever offsets are recorded. -/
  forceSvm : Bool := false
deriving DecidableEq, Repr

/-- What is recorded about arguments apart from their content. -/
structure ArgumentRecords where
  /-- Values, or tokens of allocations. -/
  values : PositionMap Bytes
  /-- Offsets into shared memory. -/
  offsets : PositionMap Nat
deriving DecidableEq

namespace ArgumentRecords

/-- Reads the recorded values and offsets of a capture. -/
def read (tree : FileTree) (root : Path) : Except CaptureError ArgumentRecords := do
  let values ← (← Artifact.scan tree root .argument).traverse fun _ path =>
    Artifact.bytes tree path
  let offsets ← (← Artifact.scan tree root .svmOffset).traverse fun _ path => do
    let text ← Artifact.text tree path
    Artifact.decoded path (Integer.parse "svm offset" text.toList)
  .ok ⟨values, offsets⟩

/-- The positions whose recorded offset is not zero, ascending. -/
def shifted (records : ArgumentRecords) : List Nat :=
  (records.offsets.entries.filter fun entry => entry.2 != 0).map (·.1)

/-- Whether buffers are bound as shared memory. -/
def svmActive (records : ArgumentRecords) (options : ReadOptions) : Bool :=
  options.forceSvm || !records.shifted.isEmpty

/-- The buffer, or region of shared memory, with some content at a position. -/
def buffer (records : ArgumentRecords) (svmActive : Bool) (position : Nat) (preState : Bytes) :
    Argument :=
  let identity := records.values.get? position
  if svmActive then .svm identity preState ((records.offsets.get? position).getD 0)
  else .buffer identity preState

/-- The notice about offsets that made shared memory of buffers, if it was not asked for. -/
def notices (records : ArgumentRecords) (options : ReadOptions) : List Notice :=
  if options.forceSvm || records.shifted.isEmpty then [] else [.svmForced records.shifted]

end ArgumentRecords

namespace ArgumentTable

/-- Claims the positions of a group of files in ascending order, each for what its file holds. -/
def claimFiles (decode : Nat → Path → Except CaptureError Argument) (files : PositionMap Path)
    (table : ArgumentTable) : Except CaptureError ArgumentTable :=
  files.entries.foldlM
    (fun claimed entry => do
      let argument ← decode entry.1 entry.2
      Artifact.decoded entry.2 (claim claimed entry.1 argument))
    table

/-- Refuses a recorded offset of shared memory where there is no buffer. -/
def checkOffsets (records : ArgumentRecords) (directory : Path) (pattern : FilePattern)
    (table : ArgumentTable) : Except CaptureError Unit :=
  match records.offsets.positions.find? fun position => !table.contains position with
  | none => .ok ()
  | some position =>
    .error (.missing (directory.child
      (pattern.glob ++ " (argument " ++ decimal position ++ ")")))

/-- Reads the image at a position: its metadata first, then its content. -/
def readImage (tree : FileTree) (root : Path) (position : Nat) (path : Path) :
    Except CaptureError Argument := do
  let metadataPath := root.child (Naming.imageMetadataName position)
  let metadata ← Artifact.text tree metadataPath
  let descriptor ← Artifact.decoded metadataPath (ImageDescriptor.parse metadata)
  let content ← Artifact.bytes tree path
  Artifact.decoded path (descriptor.checkLength content.length)
  .ok (.image descriptor content)

/-- Reads the sampler described in a file. -/
def readSampler (tree : FileTree) (path : Path) : Except CaptureError Argument := do
  let text ← Artifact.text tree path
  .ok (.sampler (.parse (firstLine text.toList)))

/-- Reads the size of local memory in a file. -/
def readLocalMemory (tree : FileTree) (path : Path) : Except CaptureError Argument := do
  let text ← Artifact.text tree path
  (Artifact.decoded path (Integer.parse "local size" text.toList)).map .localMemory

/-- Offers all recorded values as plain arguments. -/
def offerValues (values : PositionMap Bytes) (table : ArgumentTable) : ArgumentTable :=
  values.entries.foldl (fun offered entry => offer offered entry.1 entry.2) table

/-- Reads the arguments of a capture from its files. -/
def read (tree : FileTree) (root : Path) (enqueue : Enqueue) (records : ArgumentRecords)
    (svmActive : Bool) : Except CaptureError ArgumentTable := do
  let directory := root.child Naming.preDirectory
  let buffers ← Artifact.scan tree directory (.preBuffer enqueue)
  let table ← claimFiles
    (fun position path =>
      (Artifact.bytes tree path).map (records.buffer svmActive position)) buffers .empty
  if svmActive then checkOffsets records directory (.preBuffer enqueue) table
  let images ← Artifact.scan tree directory (.preImage enqueue)
  let table ← claimFiles (readImage tree root) images table
  let samplers ← Artifact.scan tree root .sampler
  let table ← claimFiles (fun _ => readSampler tree) samplers table
  let locals ← Artifact.scan tree root .localMemory
  let table ← claimFiles (fun _ => readLocalMemory tree) locals table
  .ok (offerValues records.values table)

/-- The notice about an image whose type is not known. -/
def imageNotice? : Nat × Argument → Option Notice
  | (position, .image ⟨.unknown code, _, _⟩ _) => some (.imageTypeFallback position code)
  | _ => none

/-- The notices about images, in position order. -/
def imageNotices (table : ArgumentTable) : List Notice :=
  table.entries.filterMap imageNotice?

end ArgumentTable

end LaunchReplay
