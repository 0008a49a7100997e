import LaunchReplay.AliasPlan
import LaunchReplay.Device.Basic
import LaunchReplay.Naming.Pattern
import LaunchReplay.Replay.Error

/-!
# Binding the arguments

Each group of an alias plan becomes one allocation, as long as the longest content of its members
and filled with the content of the lowest. Images and samplers follow, one object each. Then every
position is bound, in ascending order; a position in several groups is bound to the last.
-/

namespace LaunchReplay

/-- An output that is to be read back after the launch. -/
structure OutputSlot where
  /-- Position of the argument. -/
  position : Nat
  /-- Kind of output file. -/
  kind : OutputKind
  /-- Object that holds the content. -/
  source : ReadSource
  /-- Number of bytes, that of the content before the launch. -/
  length : Nat
deriving DecidableEq, Repr

/-- The request that reads an output back. -/
def OutputSlot.request (slot : OutputSlot) : ReadRequest :=
  ⟨slot.source, slot.length⟩

/-- What came of binding the arguments. -/
structure Bindings where
  /-- Number of bound positions. -/
  bound : Nat
  /-- Number of allocations. -/
  allocations : Nat
  /-- Outputs in ascending position. -/
  outputs : List OutputSlot
deriving DecidableEq, Repr

/-- One object that has to be created before arguments can be bound. -/
inductive Allocation
  /-- A buffer for a group. -/
  | buffer (group : BufferGroup)
  /-- A shared region for a group. -/
  | region (group : SvmGroup)
  /-- An image. -/
  | image (position : Nat) (descriptor : ImageDescriptor) (preState : Bytes)
  /-- A sampler. -/
  | sampler (position : Nat) (descriptor : SamplerDescriptor)
deriving DecidableEq, Repr

namespace Allocation

/-- The object that the argument at a position has for itself, if it has one. -/
def ofEntry? : Nat × Argument → Option Allocation
  | (position, .image descriptor preState) => some (.image position descriptor preState)
  | (position, .sampler descriptor) => some (.sampler position descriptor)
  | _ => none

/-- All objects for a table of arguments, in the order of their creation. -/
def all (plan : AliasPlan) (table : ArgumentTable) : List Allocation :=
  plan.bufferGroups.map .buffer ++ plan.svmGroups.map .region ++ table.entries.filterMap ofEntry?

/-- Whether the object has memory. -/
def hasMemory : Allocation → Bool
  | sampler _ _ => false
  | _ => true

end Allocation

/-- What positions are to be bound to. -/
abbrev BindingTargets := PositionMap BoundValue

namespace BindingTargets

/-- The targets with the members of a group bound as given. -/
def assign (targets : BindingTargets) (members : List (Nat × BoundValue)) : BindingTargets :=
  members.foldl (fun assigned member => assigned.insert member.1 member.2) targets

/-- The value to bind for an argument. -/
def value (targets : BindingTargets) : Nat × Argument → Except ReplayError BoundValue
  | (_, .scalar bytes) => .ok (.scalar bytes)
  | (_, .localMemory size) => .ok (.localMemory size)
  | (position, argument) =>
    match targets.get? position with
    | some target => .ok target
    | none => .error (.noAllocation argument.kind position)

end BindingTargets

namespace Bindings

/-- The length of the longest content before the launch among some positions. -/
def longest (table : ArgumentTable) (positions : List Nat) : Nat :=
  (positions.map fun position => (ArgumentTable.preState table position).length).foldl max 0

/-- The output at a position with a bound value, if that has memory to read back. -/
def slot? (table : ArgumentTable) (bound : Nat × BoundValue) : Option OutputSlot :=
  let length := (ArgumentTable.preState table bound.1).length
  match bound.2 with
  | .buffer memory => some ⟨bound.1, .buffer, .buffer memory, length⟩
  | .svm region _ => some ⟨bound.1, .buffer, .svm region, length⟩
  | .image memory => some ⟨bound.1, .image, .image memory, length⟩
  | _ => none

variable {σ : Type} [Device σ]

/-- Refuses a table that has not as many arguments as the kernel declares. -/
def checkArity (table : ArgumentTable) (kernel : Handle .kernel) : DeviceM σ ReplayError Unit := do
  match ← DeviceM.arity? kernel with
  | some declared =>
    if declared = table.size then pure () else throw (.arityMismatch declared table.size)
  | none => pure ()

/-- The position whose content fills an allocation. -/
def seedOf (representative : Option Nat) : DeviceM σ ReplayError Nat :=
  match representative with
  | some position => pure position
  | none => throw .emptyGroup

/-- Creates one object and makes it the target of its positions. -/
def allocate (table : ArgumentTable) (targets : BindingTargets) :
    Allocation → DeviceM σ ReplayError BindingTargets
  | .buffer group => do
    let seed ← seedOf group.representative?
    let memory ← DeviceM.ask .device
      (.createBuffer (ArgumentTable.preState table seed) (longest table group.positions))
    pure (targets.assign (group.positions.map fun position => (position, .buffer memory)))
  | .region group => do
    let seed ← seedOf group.representative?
    let region ← DeviceM.ask .device
      (.createRegion (ArgumentTable.preState table seed) (longest table group.positions))
    pure (targets.assign (group.members.map fun member => (member.1, .svm region member.2)))
  | .image position descriptor preState => do
    let memory ← DeviceM.ask .device (.createImage descriptor preState)
    pure (targets.insert position (.image memory))
  | .sampler position descriptor => do
    let sampler ← DeviceM.ask .device (.createSampler descriptor)
    pure (targets.insert position (.sampler sampler))

/-- Binds one argument, and gives the value that was bound. -/
def bindEntry (kernel : Handle .kernel) (targets : BindingTargets) (entry : Nat × Argument) :
    DeviceM σ ReplayError (Nat × BoundValue) := do
  match targets.value entry with
  | .error error => throw error
  | .ok value =>
    DeviceM.ask .device (.bind kernel entry.1 value)
    pure (entry.1, value)

/-- Creates all objects for a table of arguments and binds every position. -/
def create (table : ArgumentTable) (plan : AliasPlan) (kernel : Handle .kernel) :
    DeviceM σ ReplayError Bindings := do
  checkArity table kernel
  let objects := Allocation.all plan table
  let targets ← objects.foldlM (allocate table) .empty
  let bound ← table.entries.mapM (bindEntry kernel targets)
  pure
    { bound := bound.length
      allocations := (objects.filter Allocation.hasMemory).length
      outputs := bound.filterMap (slot? table) }

end Bindings

end LaunchReplay
