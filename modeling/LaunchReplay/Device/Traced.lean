import LaunchReplay.Device.Basic

/-!
# Traced devices

A device together with the list of all calls that it was given and what it answered. Tracing does
not change any answer.
-/

namespace LaunchReplay

/-- A call and its outcome. -/
structure Exchange where
  /-- What was asked. -/
  call : Call
  /-- What was answered. -/
  outcome : Except DeviceError call.Reply

/-- A device with its history. -/
structure Traced (σ : Type) where
  /-- The device. -/
  device : σ
  /-- All exchanges so far, the earliest first. -/
  history : List Exchange

namespace Traced

variable {σ : Type} [Device σ]

/-- Answers a call as the device does, and records the exchange. -/
def perform (call : Call) (state : Traced σ) : Except DeviceError call.Reply × Traced σ :=
  match Device.perform call state.device with
  | (outcome, next) => (outcome, ⟨next, state.history ++ [⟨call, outcome⟩]⟩)

instance : Device (Traced σ) where
  info state := Device.info state.device
  arity? state kernel := Device.arity? state.device kernel
  perform := perform

@[simp]
theorem fst_perform (call : Call) (state : Traced σ) :
    (perform call state).1 = (Device.perform call state.device).1 := rfl

@[simp]
theorem device_perform (call : Call) (state : Traced σ) :
    (perform call state).2.device = (Device.perform call state.device).2 := rfl

@[simp]
theorem history_perform (call : Call) (state : Traced σ) :
    (perform call state).2.history =
      state.history ++ [⟨call, (Device.perform call state.device).1⟩] := rfl

end Traced

end LaunchReplay
