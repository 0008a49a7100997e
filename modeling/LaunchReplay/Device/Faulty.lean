import LaunchReplay.Device.Basic

/-!
# Faulty devices

A device with a schedule of faults. The calls of each kind are counted, and a call that the
schedule names by kind and number fails without reaching the device.
-/

namespace LaunchReplay

/-- One call that is to fail. -/
structure Fault where
  /-- The kind of the call. -/
  method : Call.Method
  /-- Its number among the calls of that kind, from one. -/
  occurrence : Nat
  /-- The error with which it fails. -/
  error : DeviceError
deriving DecidableEq, Repr

/-- A device with a schedule of faults. -/
structure Faulty (σ : Type) where
  /-- The device. -/
  device : σ
  /-- The schedule. -/
  faults : List Fault
  /-- How many calls of each kind have been made. -/
  count : Call.Method → Nat

namespace Faulty

variable {σ : Type} [Device σ]

/-- A device to which no call has been made. -/
def ofDevice (device : σ) (faults : List Fault) : Faulty σ :=
  ⟨device, faults, fun _ => 0⟩

/-- The error with which the next call of a kind is to fail, if it is. -/
def scheduled? (state : Faulty σ) (method : Call.Method) : Option DeviceError :=
  (state.faults.find? fun fault =>
    fault.method = method ∧ fault.occurrence = state.count method + 1).map (·.error)

/-- The state after one more call of a kind. -/
def counted (state : Faulty σ) (method : Call.Method) : Faulty σ :=
  { state with count := fun other => if other = method then state.count other + 1
                                     else state.count other }

/-- Fails a scheduled call, and passes every other one on. -/
def perform (call : Call) (state : Faulty σ) : Except DeviceError call.Reply × Faulty σ :=
  let state' := state.counted call.method
  match state.scheduled? call.method with
  | some error => (.error error, state')
  | none =>
    match Device.perform call state'.device with
    | (outcome, next) => (outcome, { state' with device := next })

instance : Device (Faulty σ) where
  info state := Device.info state.device
  arity? state kernel := Device.arity? state.device kernel
  perform := perform

end Faulty

end LaunchReplay
