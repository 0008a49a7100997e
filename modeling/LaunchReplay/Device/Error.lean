import LaunchReplay.Device.Handle

/-!
# Device errors

Why a device refused a call.
-/

namespace LaunchReplay

/-- The causes for which a device refuses a call. -/
inductive DeviceError
  /-- There is no device to call. -/
  | unavailable (reason : String)
  /-- A program could not be built. -/
  | buildFailed (log : String)
  /-- A program has no kernel of the name. -/
  | entryPointMissing (name : String)
  /-- Memory could not be allocated. -/
  | allocation (reason : String)
  /-- A handle names no object of the device. -/
  | invalidHandle (kind : HandleKind) (index : Nat)
  /-- A kernel argument was refused. -/
  | binding (position : Nat) (reason : String)
  /-- A launch was refused. -/
  | launch (reason : String)
  /-- Memory could not be read back. -/
  | transfer (reason : String)
  /-- The device lacks a capability. -/
  | unsupported (capability : String)
deriving DecidableEq, Repr

namespace DeviceError

open Text

/-- The text of a device error. -/
def message : DeviceError → String
  | unavailable reason => "Device unavailable: " ++ reason
  | buildFailed log => "Program build failed: " ++ log
  | entryPointMissing name => "Entry point not found: " ++ name
  | allocation reason => "Allocation failed: " ++ reason
  | invalidHandle kind index => "Invalid " ++ kind.label ++ " handle " ++ decimal index
  | binding position reason => "Cannot bind argument " ++ decimal position ++ ": " ++ reason
  | launch reason => "Launch failed: " ++ reason
  | transfer reason => "Read-back failed: " ++ reason
  | unsupported capability => "Unsupported: " ++ capability

/-- The error about a handle that names no object. -/
def ofHandle {kind : HandleKind} (handle : Handle kind) : DeviceError :=
  .invalidHandle kind handle.index

end DeviceError

end LaunchReplay
