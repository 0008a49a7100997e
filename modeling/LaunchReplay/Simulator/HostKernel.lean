import LaunchReplay.Simulator.Store

/-!
# Host kernels

What a simulated launch does: a program that looks at the launch and writes into the memory bound
to it, and nothing else. A host kernel may keep a memo from one launch to the next.
-/

namespace LaunchReplay.Simulator

/-- What a host kernel sees of a launch. -/
structure LaunchView where
  /-- Index space. -/
  geometry : Geometry
  /-- Values bound to positions. -/
  argument? : Nat → Option BoundValue
  /-- Memory behind positions. -/
  memory? : Nat → Option Bytes

namespace LaunchView

/-- The bytes of the plain value bound to a position. -/
def scalar? (view : LaunchView) (position : Nat) : Option Bytes :=
  match view.argument? position with
  | some (.scalar bytes) => some bytes
  | _ => none

/-- The view of a launch with the memory as it is. -/
def ofStore (geometry : Geometry) (arguments : PositionMap BoundValue) (store : Store) :
    LaunchView where
  geometry
  argument? := arguments.get?
  memory? position := (arguments.get? position).bind store.content?

end LaunchView

/-- The course of one simulated launch. -/
inductive HostProgram (κ : Type)
  /-- Ends, leaving a memo. -/
  | halt (memo : κ)
  /-- Writes bytes from a start on into the memory behind a position. -/
  | write (position start : Nat) (patch : Bytes) (next : HostProgram κ)
  /-- Looks at the launch. -/
  | observe (next : LaunchView → HostProgram κ)

namespace HostProgram

variable {κ : Type}

/-- Runs a launch with the given geometry and bound values. -/
def run (geometry : Geometry) (arguments : PositionMap BoundValue) :
    HostProgram κ → Store → κ × Store
  | halt memo, store => (memo, store)
  | write position start patch next, store =>
    match arguments.get? position with
    | some value => next.run geometry arguments (store.write value start patch)
    | none => next.run geometry arguments store
  | observe next, store =>
    (next (.ofStore geometry arguments store)).run geometry arguments store

end HostProgram

/-- What stands for a kernel on the host: the course of a launch for each memo. -/
abbrev HostKernel (κ : Type) := κ → HostProgram κ

end LaunchReplay.Simulator
