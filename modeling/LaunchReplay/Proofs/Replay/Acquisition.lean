import LaunchReplay.Proofs.Device.Steps
import LaunchReplay.Replay.Acquisition
import LaunchReplay.Simulator.Basic

/-!
# Acquiring a program on a simulated device

Whatever form of the program is built, and however many device binaries were rejected before, what
is left on the device besides built programs and records of builds is one new kernel of the entry
point, with nothing bound to it.
-/

namespace LaunchReplay

variable {κ : Type}

namespace Simulator

variable {state after : Simulator κ}

theorem perform_buildProgram (state : Simulator κ) (image : ProgramImage) (options : String) :
    Device.perform (.buildProgram image options) state = state.buildProgram image options := rfl

theorem perform_createKernel (state : Simulator κ) (program : Handle .program) (name : String) :
    Device.perform (.createKernel program name) state = state.createKernel program name := rfl

/-- A build leaves programs and records of builds, whether or not it succeeds. -/
theorem buildProgram_after {image : ProgramImage} {options : String}
    {outcome : Except DeviceError (Handle .program)}
    (built : state.buildProgram image options = (outcome, after)) :
    ∃ programs builds, after = { state with programs, builds } := by
  rw [buildProgram] at built
  split at built <;> cases built <;> exact ⟨_, _, rfl⟩

theorem createKernel_error {program : Handle .program} {name : String} {error : DeviceError}
    (refused : state.createKernel program name = (.error error, after)) : after = state := by
  rw [createKernel] at refused
  split at refused
  · cases refused
    rfl
  · split at refused <;> cases refused
    rfl

theorem createKernel_ok {program : Handle .program} {name : String} {kernel : Handle .kernel}
    (created : state.createKernel program name = (.ok kernel, after)) :
    kernel = ⟨state.kernels.length⟩ ∧
      after = { state with kernels := state.kernels ++ [⟨name, .empty⟩] } := by
  rw [createKernel] at created
  split at created
  · cases created
  · split at created <;> cases created
    exact ⟨rfl, rfl⟩

end Simulator

namespace AcquiredProgram

variable {launch : Launch} {before after : Simulator κ} {acquired : AcquiredProgram}

theorem ofImage_ok {image : ProgramImage}
    (run : ofImage launch image before = (.ok acquired, after)) :
    acquired.kernel = ⟨before.kernels.length⟩ ∧ ∃ programs builds,
      after = { before with
        programs, builds, kernels := before.kernels ++ [⟨launch.kernelName, .empty⟩] } := by
  obtain ⟨program, middle, built, rest⟩ := DeviceM.bind_ok.mp run
  obtain ⟨kernel, final, created, finished⟩ := DeviceM.bind_ok.mp rest
  obtain ⟨rfl, rfl⟩ := DeviceM.pure_ok.mp finished
  rw [DeviceM.ask_ok, Simulator.perform_buildProgram] at built
  rw [DeviceM.ask_ok, Simulator.perform_createKernel] at created
  obtain ⟨programs, builds, rfl⟩ := Simulator.buildProgram_after built
  obtain ⟨rfl, rfl⟩ := Simulator.createKernel_ok created
  exact ⟨rfl, programs, builds, rfl⟩

/-- A device binary is rejected and leaves no kernel, or it is accepted and leaves one. -/
theorem tryBinary_ok {blob : NamedBlob}
    {outcome : Except DeviceError (Handle .program × Handle .kernel)}
    (run : tryBinary launch blob before = (.ok outcome, after)) :
    (∃ error, outcome = .error error ∧ ∃ programs builds,
        after = { before with programs, builds }) ∨
      ∃ program, outcome = .ok (program, ⟨before.kernels.length⟩) ∧ ∃ programs builds,
        after = { before with
          programs, builds, kernels := before.kernels ++ [⟨launch.kernelName, .empty⟩] } := by
  obtain ⟨build, middle, built, rest⟩ := DeviceM.bind_ok.mp run
  rw [DeviceM.attempt_ok, Simulator.perform_buildProgram] at built
  obtain ⟨programs, builds, rfl⟩ := Simulator.buildProgram_after built
  cases build with
  | error error =>
      obtain ⟨rfl, rfl⟩ := DeviceM.pure_ok.mp rest
      exact .inl ⟨error, rfl, programs, builds, rfl⟩
  | ok program =>
      obtain ⟨creation, final, created, rest⟩ := DeviceM.bind_ok.mp rest
      rw [DeviceM.attempt_ok, Simulator.perform_createKernel] at created
      cases creation with
      | error error =>
          obtain ⟨rfl, rfl⟩ := DeviceM.pure_ok.mp rest
          obtain rfl := Simulator.createKernel_error created
          exact .inl ⟨error, rfl, programs, builds, rfl⟩
      | ok kernel =>
          obtain ⟨rfl, rfl⟩ := DeviceM.pure_ok.mp rest
          obtain ⟨rfl, rfl⟩ := Simulator.createKernel_ok created
          exact .inr ⟨program, rfl, programs, builds, rfl⟩

theorem ofBinaries_ok {rejected : List BinaryAttempt} {blobs : List NamedBlob}
    (run : ofBinaries launch rejected blobs before = (.ok acquired, after)) :
    acquired.kernel = ⟨before.kernels.length⟩ ∧ ∃ programs builds,
      after = { before with
        programs, builds, kernels := before.kernels ++ [⟨launch.kernelName, .empty⟩] } := by
  induction blobs generalizing rejected before with
  | nil => exact (DeviceM.throw_ok run).elim
  | cons blob rest induction =>
      obtain ⟨outcome, middle, tried, run⟩ := DeviceM.bind_ok.mp run
      rcases tryBinary_ok tried with
        ⟨error, rfl, programs, builds, rfl⟩ | ⟨program, rfl, programs, builds, rfl⟩
      · obtain ⟨kernel_eq, programs, builds, rfl⟩ := induction run
        exact ⟨kernel_eq, programs, builds, rfl⟩
      · obtain ⟨rfl, rfl⟩ := DeviceM.pure_ok.mp run
        exact ⟨rfl, programs, builds, rfl⟩

end AcquiredProgram

/-- An acquired kernel is new, and nothing but programs and records of builds came with it. -/
theorem Program.acquire_ok {launch : Launch} {program : Program} {before after : Simulator κ}
    {acquired : AcquiredProgram}
    (run : program.acquire launch before = (.ok acquired, after)) :
    acquired.kernel = ⟨before.kernels.length⟩ ∧ ∃ programs builds,
      after = { before with
        programs, builds, kernels := before.kernels ++ [⟨launch.kernelName, .empty⟩] } := by
  cases program with
  | source text => exact AcquiredProgram.ofImage_ok run
  | intermediate bytes => exact AcquiredProgram.ofImage_ok run
  | binaries candidates =>
      cases candidates with
      | nil => exact (DeviceM.throw_ok run).elim
      | cons blob rest => exact AcquiredProgram.ofBinaries_ok run

/-- An acquired kernel is the captured one, with nothing bound to it. -/
theorem Program.fresh_of_acquire {launch : Launch} {program : Program} {before after : Simulator κ}
    {acquired : AcquiredProgram}
    (run : program.acquire launch before = (.ok acquired, after)) :
    after.kernels[acquired.kernel.index]? = some ⟨launch.kernelName, .empty⟩ := by
  obtain ⟨kernel_eq, programs, builds, after_eq⟩ := acquire_ok run
  rw [kernel_eq, after_eq]
  simp

end LaunchReplay
