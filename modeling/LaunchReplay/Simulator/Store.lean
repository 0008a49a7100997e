import LaunchReplay.Device.Call
import LaunchReplay.PositionMap

/-!
# Simulated memory

The memory objects and shared regions of a simulated device, and what a bound value makes of them.
Objects are only ever added, and no object changes its length.
-/

namespace LaunchReplay

/-- Data that is to be filled from the leading bytes of an object. -/
structure Destination where
  /-- The object. -/
  source : ReadSource
  /-- The data before it is filled. -/
  data : Bytes
deriving DecidableEq, Repr

namespace Destination

/-- The request to fill the data. -/
def request (destination : Destination) : ReadRequest :=
  ⟨destination.source, destination.data.length⟩

/-- New data for a request, all zero. -/
def zero (request : ReadRequest) : Destination :=
  ⟨request.source, List.replicate request.length 0⟩

@[simp]
theorem request_zero (request : ReadRequest) : (zero request).request = request := by
  simp [zero, Destination.request]

end Destination

namespace Simulator

/-- A buffer, or an image if it has a descriptor. -/
structure Memory where
  /-- Content. -/
  bytes : Bytes
  /-- Descriptor of an image. -/
  descriptor : Option ImageDescriptor
deriving DecidableEq, Repr

/-- All memory of a simulated device. -/
structure Store where
  /-- Buffers and images, by handle. -/
  memories : List Memory
  /-- Shared regions, by handle. -/
  regions : List Bytes
deriving DecidableEq, Repr

namespace Store

/-- The store without objects. -/
def empty : Store := ⟨[], []⟩

/-- The memory that a handle names. -/
def memory? (store : Store) (handle : Handle .memory) : Option Memory :=
  store.memories[handle.index]?

/-- The region that a handle names. -/
def region? (store : Store) (handle : Handle .region) : Option Bytes :=
  store.regions[handle.index]?

/-- The bytes behind a bound value, a shared region from its offset on. -/
def content? (store : Store) : BoundValue → Option Bytes
  | .buffer memory | .image memory => (store.memory? memory).map (·.bytes)
  | .svm region offset =>
    (store.region? region).bind fun bytes =>
      if offset ≤ bytes.length then some (bytes.drop offset) else none
  | _ => none

/-- Writes over the bytes behind a bound value, from a start on and cut to what is there. -/
def write (store : Store) (value : BoundValue) (start : Nat) (patch : Bytes) : Store :=
  match value with
  | .buffer memory | .image memory =>
    { store with
      memories := store.memories.modify memory.index fun object =>
        { object with bytes := object.bytes.overwrite start patch } }
  | .svm region offset =>
    { store with
      regions := store.regions.modify region.index fun bytes =>
        bytes.overwrite (offset + start) patch }
  | _ => store

/-- The content of an object that may be read back. -/
def source (store : Store) : ReadSource → Except DeviceError Bytes
  | .buffer handle | .image handle =>
    match store.memory? handle with
    | some memory => .ok memory.bytes
    | none => .error (.ofHandle handle)
  | .svm handle =>
    match store.region? handle with
    | some bytes => .ok bytes
    | none => .error (.ofHandle handle)

/-- The leading bytes of an object, as many as are requested. -/
def read (store : Store) (request : ReadRequest) : Except DeviceError Bytes := do
  let bytes ← store.source request.source
  if request.length ≤ bytes.length then .ok (bytes.take request.length)
  else
    .error (.transfer ("requested " ++ Text.decimal request.length ++ " bytes from a " ++
      Text.decimal bytes.length ++ "-byte object"))

/-- Fills requests in order up to the first bad one; from there on they stay zero. -/
def fill (store : Store) : List ReadRequest → List Bytes × Except DeviceError Unit
  | [] => ([], .ok ())
  | request :: rest =>
    match store.read request with
    | .error error =>
      ((request :: rest).map fun unfilled => List.replicate unfilled.length 0, .error error)
    | .ok bytes =>
      match store.fill rest with
      | (more, outcome) => (bytes :: more, outcome)

/-- Fills destinations in order up to the first bad one; from there on they keep their data. -/
def fillInto (store : Store) : List Destination → List Bytes × Except DeviceError Unit
  | [] => ([], .ok ())
  | destination :: rest =>
    match store.read destination.request with
    | .error error => ((destination :: rest).map (·.data), .error error)
    | .ok bytes =>
      match store.fillInto rest with
      | (more, outcome) => (bytes :: more, outcome)

end Store

end Simulator

end LaunchReplay
