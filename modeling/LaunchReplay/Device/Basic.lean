import LaunchReplay.Device.Call

/-!
# Devices

A device is a state that answers calls. Whoever drives a device does so in a monad that threads the
state and stops at the first error; the state reached by then is kept.
-/

namespace LaunchReplay

/-- What a device says about itself. -/
structure DeviceInfo where
  /-- Name of the device. -/
  name : String
  /-- Name of the vendor. -/
  vendor : String
deriving DecidableEq, Repr

namespace DeviceInfo

/-- The one-line form of what a device says about itself. -/
def describe (info : DeviceInfo) : String :=
  info.name ++ " (" ++ info.vendor ++ ")"

end DeviceInfo

/-- A type of states that answer device calls. -/
class Device (σ : Type) where
  /-- What the device says about itself. -/
  info : σ → DeviceInfo
  /-- How many arguments a kernel declares, if the device knows. -/
  arity? : σ → Handle .kernel → Option Nat
  /-- Answers a call. -/
  perform : (call : Call) → σ → Except DeviceError call.Reply × σ

/-- Computations that drive a device and may stop with an error. -/
abbrev DeviceM (σ ε : Type) := ExceptT ε (StateM σ)

namespace DeviceM

variable {σ ε : Type} [Device σ]

/-- Makes one call, and stops if the device refuses it. -/
def ask (wrap : DeviceError → ε) (call : Call) : DeviceM σ ε call.Reply := fun state =>
  match Device.perform call state with
  | (.ok reply, next) => (.ok reply, next)
  | (.error error, next) => (.error (wrap error), next)

/-- Makes one call, and goes on with its outcome whatever that is. -/
def attempt (call : Call) : DeviceM σ ε (Except DeviceError call.Reply) := fun state =>
  match Device.perform call state with
  | (outcome, next) => (.ok outcome, next)

/-- How many arguments a kernel declares. -/
def arity? (kernel : Handle .kernel) : DeviceM σ ε (Option Nat) := fun state =>
  (.ok (Device.arity? state kernel), state)

/-- What the device says about itself. -/
def info : DeviceM σ ε DeviceInfo := fun state =>
  (.ok (Device.info state), state)

end DeviceM

end LaunchReplay
