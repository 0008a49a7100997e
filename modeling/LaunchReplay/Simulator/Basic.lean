import LaunchReplay.Device.Basic
import LaunchReplay.Simulator.HostKernel
import LaunchReplay.Text.Quoted
import LaunchReplay.Text.Search

/-!
# Simulated device

A device in host memory. An empty image does not build, nor does source text with an error
directive; an entry point exists if its name occurs in the program. Kernels are host kernels, found
by the name of the entry point, and one without a host kernel does nothing. All builds and launches
are recorded. Calls that fail change nothing, but for the record of a failed build. Answers are
those of a host that has room for what a call takes; on one that has not, the program ends.
-/

namespace LaunchReplay

namespace Simulator

/-- A kernel with the values bound to it so far. -/
structure Kernel where
  /-- Name of the entry point. -/
  name : String
  /-- Values bound to positions. -/
  arguments : PositionMap BoundValue
deriving DecidableEq

/-- The record of one build. -/
structure BuildRecord where
  /-- Form of what was built. -/
  tier : ProgramTier
  /-- Option string. -/
  options : String
  /-- Whether the build succeeded. -/
  succeeded : Bool
deriving DecidableEq, Repr

/-- The record of one launch. -/
structure LaunchRecord where
  /-- Name of the entry point. -/
  kernel : String
  /-- Index space. -/
  geometry : Geometry
  /-- Values bound at the time. -/
  arguments : PositionMap BoundValue
deriving DecidableEq

/-- What a simulated device is set up with. -/
structure Setup (κ : Type) where
  /-- Host kernels by entry point. -/
  hostKernel? : String → Option (HostKernel κ)
  /-- Declared argument counts by entry point. -/
  arity? : String → Option Nat
  /-- Whether regions of shared virtual memory can be allocated. -/
  supportsRegions : Bool

/-- A setup without host kernels and declared argument counts. -/
def Setup.plain : Setup Unit where
  hostKernel? _ := none
  arity? _ := none
  supportsRegions := true

end Simulator

open Simulator

/-- The state of a simulated device. -/
structure Simulator (κ : Type) where
  /-- What the device was set up with. -/
  setup : Setup κ
  /-- Built programs, by handle. -/
  programs : List Bytes
  /-- Kernels, by handle. -/
  kernels : List Kernel
  /-- Memory. -/
  store : Store
  /-- Samplers, by handle. -/
  samplers : List SamplerDescriptor
  /-- All builds so far, in order. -/
  builds : List BuildRecord
  /-- All launches so far, in order. -/
  launches : Array LaunchRecord
  /-- What host kernels have left. -/
  memo : κ

namespace Simulator

variable {κ : Type}

/-- A new device. -/
def new (setup : Setup κ) (memo : κ) : Simulator κ :=
  ⟨setup, [], [], .empty, [], [], #[], memo⟩

/-- What a simulated device says about itself. -/
def info : DeviceInfo := ⟨"kreplay host simulator", "kreplay"⟩

/-- The text that marks source which does not build. -/
def errorDirective : String := "#error"

/-- The built form of an image, or the build log. -/
def compile : ProgramImage → Except String Bytes
  | .source text =>
    if Text.occurs errorDirective.toList text.toList then .error (errorDirective ++ " directive")
    else .ok (Bytes.ofText text)
  | .intermediate bytes | .binary bytes =>
    if bytes.isEmpty then .error "empty program image" else .ok bytes

/-- Builds a program; the record says whether it succeeded. -/
def buildProgram (state : Simulator κ) (image : ProgramImage) (options : String) :
    Except DeviceError (Handle .program) × Simulator κ :=
  match compile image with
  | .error log =>
    (.error (.buildFailed log),
      { state with builds := state.builds ++ [⟨image.tier, options, false⟩] })
  | .ok bytes =>
    (.ok ⟨state.programs.length⟩,
      { state with
        builds := state.builds ++ [⟨image.tier, options, true⟩]
        programs := state.programs ++ [bytes] })

/-- Whether a built program has an entry point. -/
def hasEntryPoint (program : Bytes) (name : String) : Bool :=
  !(Bytes.ofText name).isEmpty && Text.occurs (Bytes.ofText name) program

/-- Makes the kernel of an entry point, with nothing bound to it. -/
def createKernel (state : Simulator κ) (program : Handle .program) (name : String) :
    Except DeviceError (Handle .kernel) × Simulator κ :=
  match state.programs[program.index]? with
  | none => (.error (.ofHandle program), state)
  | some built =>
    if hasEntryPoint built name then
      (.ok ⟨state.kernels.length⟩, { state with kernels := state.kernels ++ [⟨name, .empty⟩] })
    else (.error (.entryPointMissing name), state)

/-- Adds a memory object. -/
def addMemory (state : Simulator κ) (memory : Memory) :
    Except DeviceError (Handle .memory) × Simulator κ :=
  (.ok ⟨state.store.memories.length⟩,
    { state with store := { state.store with memories := state.store.memories ++ [memory] } })

/-- Allocates a buffer, zero after its contents. -/
def createBuffer (state : Simulator κ) (contents : Bytes) (length : Nat) :
    Except DeviceError (Handle .memory) × Simulator κ :=
  state.addMemory ⟨contents.extendTo length, none⟩

/-- Allocates an image. -/
def createImage (state : Simulator κ) (descriptor : ImageDescriptor) (contents : Bytes) :
    Except DeviceError (Handle .memory) × Simulator κ :=
  state.addMemory ⟨contents, some descriptor⟩

/-- Allocates a shared region, zero after its contents. -/
def createRegion (state : Simulator κ) (contents : Bytes) (length : Nat) :
    Except DeviceError (Handle .region) × Simulator κ :=
  if state.setup.supportsRegions then
    (.ok ⟨state.store.regions.length⟩,
      { state with
        store :=
          { state.store with regions := state.store.regions ++ [contents.extendTo length] } })
  else (.error (.unsupported "shared virtual memory"), state)

/-- Makes a sampler. -/
def createSampler (state : Simulator κ) (descriptor : SamplerDescriptor) :
    Except DeviceError (Handle .sampler) × Simulator κ :=
  (.ok ⟨state.samplers.length⟩, { state with samplers := state.samplers ++ [descriptor] })

/-- How many arguments a kernel declares. -/
def arity? (state : Simulator κ) (kernel : Handle .kernel) : Option Nat :=
  state.kernels[kernel.index]?.bind fun object => state.setup.arity? object.name

/-- Checks that a value names objects of the device and fits them. -/
def checkValue (state : Simulator κ) (position : Nat) : BoundValue → Except DeviceError Unit
  | .buffer handle =>
    match state.store.memory? handle with
    | none => .error (.ofHandle handle)
    | some memory =>
      if memory.descriptor.isSome then
        .error (.binding position (handle.name ++ " is an image"))
      else .ok ()
  | .image handle =>
    match state.store.memory? handle with
    | none => .error (.ofHandle handle)
    | some memory =>
      if memory.descriptor.isSome then .ok ()
      else .error (.binding position (handle.name ++ " is not an image"))
  | .svm handle offset =>
    match state.store.region? handle with
    | none => .error (.ofHandle handle)
    | some bytes =>
      if offset ≤ bytes.length then .ok ()
      else
        .error (.binding position ("offset " ++ Text.decimal offset ++ " past end of " ++
          Text.decimal bytes.length ++ "-byte region"))
  | .sampler handle =>
    if handle.index < state.samplers.length then .ok () else .error (.ofHandle handle)
  | .scalar _ | .localMemory _ => .ok ()

/-- Checks that a kernel declares a position, if its declaration is known. -/
def checkPosition (state : Simulator κ) (kernel : Handle .kernel) (position : Nat) :
    Except DeviceError Unit :=
  match state.arity? kernel with
  | some arity =>
    if position < arity then .ok ()
    else .error (.binding position ("kernel declares " ++ Text.decimal arity ++ " arguments"))
  | none => .ok ()

/-- The kernel that a handle names. -/
def kernel (state : Simulator κ) (handle : Handle .kernel) : Except DeviceError Kernel :=
  match state.kernels[handle.index]? with
  | some kernel => .ok kernel
  | none => .error (.ofHandle handle)

/-- The kernel to which a value may be bound, after all checks. -/
def checkBind (state : Simulator κ) (handle : Handle .kernel) (position : Nat)
    (value : BoundValue) : Except DeviceError Kernel := do
  state.checkValue position value
  state.checkPosition handle position
  state.kernel handle

/-- Binds a value to a position of a kernel. -/
def bind (state : Simulator κ) (handle : Handle .kernel) (position : Nat) (value : BoundValue) :
    Except DeviceError Unit × Simulator κ :=
  match state.checkBind handle position value with
  | .error error => (.error error, state)
  | .ok kernel =>
    (.ok (),
      { state with
        kernels := state.kernels.set handle.index
          { kernel with arguments := kernel.arguments.insert position value } })

/-- The kernel that may be launched, which has all its declared arguments bound. -/
def checkLaunch (state : Simulator κ) (handle : Handle .kernel) : Except DeviceError Kernel := do
  let kernel ← state.kernel handle
  match state.setup.arity? kernel.name with
  | some arity =>
    let gap := kernel.arguments.firstGap
    if gap < arity then .error (.launch ("argument " ++ Text.decimal gap ++ " is not set"))
    else .ok kernel
  | none => .ok kernel

/-- What the host kernel of an entry point makes of memo and memory, if there is one. -/
def runHost (state : Simulator κ) (kernel : Kernel) (geometry : Geometry) : κ × Store :=
  match state.setup.hostKernel? kernel.name with
  | some host => (host state.memo).run geometry kernel.arguments state.store
  | none => (state.memo, state.store)

/-- Launches a kernel with the values bound to it. -/
def launch (state : Simulator κ) (handle : Handle .kernel) (geometry : Geometry) :
    Except DeviceError Unit × Simulator κ :=
  match state.checkLaunch handle with
  | .error error => (.error error, state)
  | .ok kernel =>
    match state.runHost kernel geometry with
    | (memo, store) =>
      (.ok (),
        { state with
          memo
          store
          launches := state.launches.push ⟨kernel.name, geometry, kernel.arguments⟩ })

/-- Reads objects back, all or none. -/
def readBack (state : Simulator κ) (requests : List ReadRequest) :
    Except DeviceError (List Bytes) × Simulator κ :=
  match state.store.fill requests with
  | (contents, .ok ()) => (.ok contents, state)
  | (_, .error error) => (.error error, state)

/-- The least length that is too long for host memory. -/
def memoryLimit : Nat := 0x8000000000000000

/-- The lengths of the new host memory that a call takes, apart from contents that are given. -/
def demand (state : Simulator κ) : Call → List Nat
  | .createBuffer _ length => [length]
  | .createRegion _ length => if state.setup.supportsRegions then [length] else []
  | .readBack requests => requests.map (·.length)
  | _ => []

/-- Whether the host can have memory of the lengths that a call takes. If not, the program ends at
the call, and there is no answer. -/
def hasRoomFor (state : Simulator κ) (call : Call) : Bool :=
  (state.demand call).all fun length => decide (length < memoryLimit)

/-- Answers a call, on a host that has room for it. -/
def perform : (call : Call) → Simulator κ → Except DeviceError call.Reply × Simulator κ
  | .buildProgram image options, state => state.buildProgram image options
  | .createKernel program name, state => state.createKernel program name
  | .createBuffer contents length, state => state.createBuffer contents length
  | .createImage descriptor contents, state => state.createImage descriptor contents
  | .createRegion contents length, state => state.createRegion contents length
  | .createSampler descriptor, state => state.createSampler descriptor
  | .bind kernel position value, state => state.bind kernel position value
  | .launch kernel geometry, state => state.launch kernel geometry
  | .readBack requests, state => state.readBack requests

instance : Device (Simulator κ) where
  info _ := info
  arity? := arity?
  perform := perform

/-- The one-line form of a simulated device, with the numbers of its objects. -/
def describe (state : Simulator κ) : String :=
  let counts := [("programs", state.programs.length), ("kernels", state.kernels.length),
    ("memories", state.store.memories.length), ("regions", state.store.regions.length),
    ("launches", state.launches.size)]
  "SimDevice \x7b info: DeviceInfo \x7b name: " ++ Text.quoted info.name ++ ", vendor: " ++
    Text.quoted info.vendor ++ " \x7d, " ++
    String.join (counts.map fun count => count.1 ++ ": " ++ Text.decimal count.2 ++ ", ") ++
    ".. \x7d"

end Simulator

end LaunchReplay
