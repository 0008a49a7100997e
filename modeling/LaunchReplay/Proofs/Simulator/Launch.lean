import LaunchReplay.Proofs.Device.Steps
import LaunchReplay.Proofs.Outcome
import LaunchReplay.Proofs.Simulator.Store
import LaunchReplay.Replay.Outputs
import LaunchReplay.Simulator.Basic

/-!
# Launches of a simulated device

A host kernel reaches memory through the positions of its arguments only. So a launch keeps the
shape of all memory, leaves every object alone behind whose positions nothing was written, and
changes nothing else of the device but its memo and its record of launches.
-/

namespace LaunchReplay

namespace Simulator

variable {κ : Type}

namespace HostProgram

/-- The positions through which a run writes, in order. -/
def written (geometry : Geometry) (arguments : PositionMap BoundValue) :
    HostProgram κ → Store → List Nat
  | halt _, _ => []
  | write position start patch next, store =>
    position ::
      match arguments.get? position with
      | some value => next.written geometry arguments (store.write value start patch)
      | none => next.written geometry arguments store
  | observe next, store =>
    (next (.ofStore geometry arguments store)).written geometry arguments store

variable {geometry : Geometry} {arguments : PositionMap BoundValue}

/-- What every write through a bound value keeps, a run keeps. -/
theorem run_invariant (invariant : Store → Prop)
    (kept : ∀ position value, arguments.get? position = some value → ∀ store start patch,
      invariant store → invariant (store.write value start patch))
    (program : HostProgram κ) {store : Store} (holds : invariant store) :
    invariant (program.run geometry arguments store).2 := by
  induction program generalizing store with
  | halt memo => exact holds
  | write position start patch next induction =>
      rw [run]
      split
      · rename_i value bound
        exact induction (kept position value bound store start patch holds)
      · exact induction holds
  | observe next induction =>
      rw [run]
      exact induction _ holds

/-- A run leaves the bytes of an object alone if nothing is written through its positions. -/
theorem bytes?_run_of_untouched {object : MemoryObject} (program : HostProgram κ) (store : Store)
    (untouched : ∀ position ∈ program.written geometry arguments store, ∀ value,
      arguments.get? position = some value → value.object? ≠ some object) :
    (program.run geometry arguments store).2.bytes? object = store.bytes? object := by
  induction program generalizing store with
  | halt memo => rfl
  | write position start patch next induction =>
      rw [written] at untouched
      have here := untouched position (by simp)
      have later := fun other other_mem => untouched other (List.mem_cons_of_mem _ other_mem)
      rw [run]
      cases bound : arguments.get? position with
      | none =>
          simp only [bound] at later ⊢
          exact induction store later
      | some value =>
          simp only [bound] at later ⊢
          rw [induction _ later]
          exact store.bytes?_write_of_ne (here value bound) start patch
  | observe next induction =>
      rw [run]
      exact induction _ store untouched

end HostProgram

/-- The positions through which a launch of a kernel would write. -/
def written (state : Simulator κ) (kernel : Kernel) (geometry : Geometry) : List Nat :=
  match state.setup.hostKernel? kernel.name with
  | some host => (host state.memo).written geometry kernel.arguments state.store
  | none => []

/-- What every write through a value bound to a kernel keeps, a launch of it keeps. -/
theorem runHost_invariant {state : Simulator κ} {kernel : Kernel} (invariant : Store → Prop)
    (kept : ∀ position value, kernel.arguments.get? position = some value → ∀ store start patch,
      invariant store → invariant (store.write value start patch))
    (geometry : Geometry) (holds : invariant state.store) :
    invariant (state.runHost kernel geometry).2 := by
  rw [runHost]
  split
  · exact HostProgram.run_invariant invariant kept _ holds
  · exact holds

theorem runHost_sameShape (state : Simulator κ) (kernel : Kernel) (geometry : Geometry) :
    state.store.SameShape (state.runHost kernel geometry).2 :=
  runHost_invariant state.store.SameShape
    (fun _ value _ store start patch same => same.trans (store.write_sameShape value start patch))
    geometry (.refl state.store)

theorem bytes?_runHost_of_untouched {state : Simulator κ} {kernel : Kernel} {geometry : Geometry}
    {object : MemoryObject}
    (untouched : ∀ position ∈ state.written kernel geometry, ∀ value,
      kernel.arguments.get? position = some value → value.object? ≠ some object) :
    (state.runHost kernel geometry).2.bytes? object = state.store.bytes? object := by
  rw [written] at untouched
  rw [runHost]
  cases registered : state.setup.hostKernel? kernel.name with
  | none => rfl
  | some host =>
      rw [registered] at untouched
      exact HostProgram.bytes?_run_of_untouched _ _ untouched

/-- The state after a launch that was accepted. -/
def launched (state : Simulator κ) (kernel : Kernel) (geometry : Geometry) : Simulator κ :=
  { state with
    memo := (state.runHost kernel geometry).1
    store := (state.runHost kernel geometry).2
    launches := state.launches.push ⟨kernel.name, geometry, kernel.arguments⟩ }

theorem kernel_ok {state : Simulator κ} {handle : Handle .kernel} {kernel : Kernel} :
    state.kernel handle = .ok kernel ↔ state.kernels[handle.index]? = some kernel := by
  rw [Simulator.kernel]
  cases state.kernels[handle.index]? <;> simp

/-- A launch is accepted exactly if the kernel exists and no declared position is free. -/
theorem checkLaunch_ok {state : Simulator κ} {handle : Handle .kernel} {kernel : Kernel} :
    state.checkLaunch handle = .ok kernel ↔
      state.kernels[handle.index]? = some kernel ∧
        ∀ arity, state.setup.arity? kernel.name = some arity →
          arity ≤ kernel.arguments.firstGap := by
  rw [checkLaunch, Outcome.bind_ok]
  constructor
  · rintro ⟨found, named, accepted⟩
    split at accepted
    · rename_i arity declared
      dsimp only at accepted
      split at accepted
      · cases accepted
      · rename_i no_gap
        cases accepted
        refine ⟨kernel_ok.mp named, fun other other_eq => ?_⟩
        obtain rfl : arity = other := Option.some.inj (declared.symm.trans other_eq)
        exact Nat.not_lt.mp no_gap
    · rename_i undeclared
      cases accepted
      exact ⟨kernel_ok.mp named, fun arity declared => by simp [undeclared] at declared⟩
  · rintro ⟨named, no_gap⟩
    refine ⟨kernel, kernel_ok.mpr named, ?_⟩
    split
    · rename_i arity declared
      exact if_neg (Nat.not_lt.mpr (no_gap arity declared))
    · rfl

theorem perform_launch (state : Simulator κ) (handle : Handle .kernel) (geometry : Geometry) :
    Device.perform (.launch handle geometry) state = state.launch handle geometry := rfl

/-- A launch is refused and changes nothing, or it is accepted. -/
theorem launch_cases (state : Simulator κ) (handle : Handle .kernel) (geometry : Geometry) :
    (∃ error, state.launch handle geometry = (.error error, state)) ∨
      ∃ kernel, state.checkLaunch handle = .ok kernel ∧
        state.launch handle geometry = (.ok (), state.launched kernel geometry) := by
  cases checked : state.checkLaunch handle with
  | error error => exact .inl ⟨error, by simp [launch, checked]⟩
  | ok kernel => exact .inr ⟨kernel, rfl, by simp [launch, checked, launched]⟩

/-- What no launch changes. -/
structure Steady (before after : Simulator κ) : Prop where
  /-- The setup. -/
  setup : after.setup = before.setup
  /-- All programs. -/
  programs : after.programs = before.programs
  /-- All kernels with their arguments. -/
  kernels : after.kernels = before.kernels
  /-- All samplers. -/
  samplers : after.samplers = before.samplers
  /-- The record of builds. -/
  builds : after.builds = before.builds
  /-- The shape of memory. -/
  shape : before.store.SameShape after.store

theorem Steady.refl (state : Simulator κ) : Steady state state :=
  ⟨rfl, rfl, rfl, rfl, rfl, .refl _⟩

theorem Steady.trans {first second third : Simulator κ} (early : Steady first second)
    (late : Steady second third) : Steady first third :=
  ⟨late.setup.trans early.setup, late.programs.trans early.programs,
    late.kernels.trans early.kernels, late.samplers.trans early.samplers,
    late.builds.trans early.builds, early.shape.trans late.shape⟩

theorem launched_steady (state : Simulator κ) (kernel : Kernel) (geometry : Geometry) :
    Steady state (state.launched kernel geometry) :=
  ⟨rfl, rfl, rfl, rfl, rfl, runHost_sameShape state kernel geometry⟩

theorem launch_steady (state : Simulator κ) (handle : Handle .kernel) (geometry : Geometry) :
    Steady state (state.launch handle geometry).2 := by
  rcases state.launch_cases handle geometry with ⟨error, refused⟩ | ⟨kernel, _, accepted⟩
  · rw [refused]
    exact .refl state
  · rw [accepted]
    exact state.launched_steady kernel geometry

/-- A launch leaves the bytes of an object alone if nothing is written through its positions. -/
theorem bytes?_launch_of_untouched {state : Simulator κ} {handle : Handle .kernel} {kernel : Kernel}
    {geometry : Geometry} {object : MemoryObject}
    (named : state.kernels[handle.index]? = some kernel)
    (untouched : ∀ position ∈ state.written kernel geometry, ∀ value,
      kernel.arguments.get? position = some value → value.object? ≠ some object) :
    (state.launch handle geometry).2.store.bytes? object = state.store.bytes? object := by
  rcases state.launch_cases handle geometry with ⟨error, refused⟩ | ⟨other, checked, accepted⟩
  · rw [refused]
  · obtain rfl : kernel = other :=
      Option.some.inj (named.symm.trans (checkLaunch_ok.mp checked).1)
    rw [accepted]
    exact bytes?_runHost_of_untouched untouched

end Simulator

namespace Output

open Simulator

variable {κ : Type} {kernel : Handle .kernel} {geometry : Geometry}

theorem launchTimes_succ (repetitions : Nat) (state : Simulator κ) :
    launchTimes kernel geometry (repetitions + 1) state =
      match state.launch kernel geometry with
      | (.ok (), next) => launchTimes kernel geometry repetitions next
      | (.error error, next) => (.error (.device error), next) := by
  rw [launchTimes, DeviceM.bind_apply, DeviceM.ask]
  rw [perform_launch]
  obtain ⟨outcome, next⟩ := state.launch kernel geometry
  cases outcome <;> rfl

/-- What every launch keeps, any number of launches keeps, also if one of them is refused. -/
theorem launchTimes_invariant {invariant : Simulator κ → Prop}
    (kept : ∀ state, invariant state → invariant (state.launch kernel geometry).2)
    (repetitions : Nat) {state : Simulator κ} (start : invariant state) :
    invariant (launchTimes kernel geometry repetitions state).2 := by
  induction repetitions generalizing state with
  | zero => exact start
  | succ repetitions induction =>
      have next_holds := kept state start
      rw [launchTimes_succ]
      generalize state.launch kernel geometry = launch at next_holds
      obtain ⟨outcome, next⟩ := launch
      cases outcome with
      | error error => exact next_holds
      | ok reply => exact induction next_holds

theorem launchTimes_steady (repetitions : Nat) (state : Simulator κ) :
    Steady state (launchTimes kernel geometry repetitions state).2 :=
  launchTimes_invariant
    (fun other steady => steady.trans (other.launch_steady kernel geometry)) repetitions
    (.refl state)

/-- Launches that all succeed leave one record each, all of the kernel as it was bound. -/
theorem launches_launchTimes {repetitions : Nat} {state after : Simulator κ} {object : Kernel}
    (named : state.kernels[kernel.index]? = some object)
    (succeeded : launchTimes kernel geometry repetitions state = (.ok (), after)) :
    after.launches.toList = state.launches.toList ++
      List.replicate repetitions ⟨object.name, geometry, object.arguments⟩ := by
  induction repetitions generalizing state with
  | zero =>
      obtain ⟨_, rfl⟩ := DeviceM.pure_ok.mp succeeded
      simp
  | succ repetitions induction =>
      rw [launchTimes_succ] at succeeded
      rcases state.launch_cases kernel geometry with ⟨error, refused⟩ | ⟨other, checked, accepted⟩
      · rw [refused] at succeeded
        cases succeeded
      · obtain rfl : object = other :=
          Option.some.inj (named.symm.trans (checkLaunch_ok.mp checked).1)
        rw [accepted] at succeeded
        have later :
            after.launches.toList = (state.launched object geometry).launches.toList ++ _ :=
          induction named succeeded
        simp [later, launched, List.replicate_succ]

end Output

end LaunchReplay
