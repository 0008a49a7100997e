import LaunchReplay.Device.Faulty
import LaunchReplay.Device.Traced
import LaunchReplay.Simulator.Basic

/-!
# Lawful devices

Whoever asks a device for contents gives it places of certain lengths to fill. A lawful device fills
all of them if it reports success, whatever with. The simulated device is lawful, and neither faults
nor a record of all calls make a device break the law.
-/

namespace LaunchReplay

/-- Whether a device that reads back without an error gives one content for each request, as long
as was requested. -/
class LawfulDevice (σ : Type) [Device σ] : Prop where
  /-- The contents have the requested lengths. -/
  lengths_of_readBack : ∀ (requests : List ReadRequest) (before : σ) (contents : List Bytes),
    (Device.perform (.readBack requests) before).1 = .ok contents →
      contents.map List.length = requests.map (·.length)

namespace Simulator

theorem Store.length_of_read {store : Store} {request : ReadRequest} {bytes : Bytes}
    (run : store.read request = .ok bytes) : bytes.length = request.length := by
  unfold read at run
  cases found : store.source request.source with
  | error error =>
      rw [found] at run
      cases run
  | ok held =>
      rw [found] at run
      change (if request.length ≤ held.length then _ else _) = _ at run
      split at run
      · rename_i fits
        cases run
        exact List.length_take_of_le fits
      · cases run

/-- Filled or not, all data is as long as requested. -/
theorem Store.lengths_fill (store : Store) (requests : List ReadRequest) :
    (store.fill requests).1.map List.length = requests.map (·.length) := by
  induction requests with
  | nil => rfl
  | cons request rest induction =>
      rw [fill]
      cases read : store.read request with
      | error error => simp
      | ok bytes =>
          change bytes.length :: (store.fill rest).1.map List.length = _
          rw [length_of_read read, induction, List.map_cons]

instance {κ : Type} : LawfulDevice (Simulator κ) where
  lengths_of_readBack requests before contents answered := by
    have lengths := before.store.lengths_fill requests
    change (before.readBack requests).1 = _ at answered
    rw [readBack] at answered
    split at answered
    · rename_i filled
      cases answered
      rwa [filled] at lengths
    · cases answered

end Simulator

variable {σ : Type} [Device σ] [LawfulDevice σ]

instance : LawfulDevice (Faulty σ) where
  lengths_of_readBack requests before contents answered := by
    change (Faulty.perform _ _).1 = _ at answered
    rw [Faulty.perform] at answered
    dsimp only at answered
    split at answered
    · cases answered
    · exact LawfulDevice.lengths_of_readBack requests before.device contents answered

instance : LawfulDevice (Traced σ) where
  lengths_of_readBack requests before contents answered :=
    LawfulDevice.lengths_of_readBack requests before.device contents answered

end LaunchReplay
