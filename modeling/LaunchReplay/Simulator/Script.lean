import LaunchReplay.Simulator.HostKernel

/-!
# Scripted host kernels

Host kernels given as lists of steps, which write fixed or observed bytes and note what they see.
-/

namespace LaunchReplay.Simulator

/-- What a probe saw at a position. -/
structure Probe where
  /-- The position. -/
  position : Nat
  /-- The bound value. -/
  argument : Option BoundValue
  /-- The bytes of a plain value. -/
  scalar : Option Bytes
  /-- The memory. -/
  memory : Option Bytes
deriving DecidableEq, Repr

/-- One step of a scripted host kernel. -/
inductive ScriptStep
  /-- Sets one byte of the memory at a position. -/
  | set (position index : Nat) (byte : UInt8)
  /-- Adds to every byte of the memory at a position. -/
  | add (position : Nat) (amount : UInt8)
  /-- Copies a plain value to the start of the memory at a position. -/
  | copy (origin target : Nat)
  /-- Writes the geometry to the start of the memory at a position. -/
  | geometry (position : Nat)
  /-- Notes what is at a position. -/
  | probe (position : Nat)
deriving DecidableEq, Repr

namespace ScriptStep

/-- A geometry in bytes: its dimensions, then the low byte of each number. -/
def geometryBytes (geometry : Geometry) : Bytes :=
  (geometry.dimensions :: geometry.globalSize ++ geometry.explicitLocal?.getD [] ++
    geometry.globalOffset).map Nat.toUInt8

/-- What a probe sees at a position. -/
def look (position : Nat) (view : LaunchView) : Probe :=
  ⟨position, view.argument? position, view.scalar? position, view.memory? position⟩

/-- The launch that performs a step and then goes on. -/
def perform (probes : List Probe) (next : List Probe → HostProgram (List Probe)) :
    ScriptStep → HostProgram (List Probe)
  | set position index byte => .write position index [byte] (next probes)
  | add position amount =>
    .observe fun view =>
      .write position 0 (((view.memory? position).getD []).map (· + amount)) (next probes)
  | copy origin target =>
    .observe fun view => .write target 0 ((view.scalar? origin).getD []) (next probes)
  | geometry position =>
    .observe fun view => .write position 0 (geometryBytes view.geometry) (next probes)
  | probe position => .observe fun view => next (probes ++ [look position view])

end ScriptStep

/-- The host kernel that performs the steps of a script in order. -/
def scripted : List ScriptStep → HostKernel (List Probe)
  | [] => .halt
  | step :: rest => fun probes => step.perform probes (scripted rest)

end LaunchReplay.Simulator
