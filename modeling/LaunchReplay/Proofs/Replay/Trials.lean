import LaunchReplay.Proofs.Replay.Acquisition
import LaunchReplay.Proofs.Replay.Attempts

/-!
# Trials of device binaries

Device binaries are tried one after the other, each on the device that the one before left. The
first that can be used ends it, and every binary up to there is accounted for in order. If none can
be used, the error accounts for all of them.
-/

namespace LaunchReplay

/-- What came of one device binary. -/
structure Trial where
  /-- The binary. -/
  blob : NamedBlob
  /-- Its program and kernel, or why there are none. -/
  outcome : Except DeviceError (Handle .program × Handle .kernel)
deriving DecidableEq

namespace Trial

/-- Whether an attempt tells what came of a device binary. -/
inductive Tells : Trial → BinaryAttempt → Prop
  /-- It can be used. -/
  | built (blob : NamedBlob) (made : Handle .program × Handle .kernel) :
    Tells ⟨blob, .ok made⟩ ⟨blob.name, .built⟩
  /-- The device says that the entry point is missing. -/
  | entryPointMissing (blob : NamedBlob) (name : String) :
    Tells ⟨blob, .error (.entryPointMissing name)⟩ ⟨blob.name, .entryPointMissing⟩
  /-- The device says that the build failed. -/
  | buildFailed (blob : NamedBlob) (log : String) :
    Tells ⟨blob, .error (.buildFailed log)⟩ ⟨blob.name, .buildFailed log⟩
  /-- The device says anything else, which is noted as a failed build. -/
  | otherwise (blob : NamedBlob) (error : DeviceError)
    (no_entry : ∀ name, error ≠ .entryPointMissing name)
    (no_log : ∀ log, error ≠ .buildFailed log) :
    Tells ⟨blob, .error error⟩ ⟨blob.name, .buildFailed error.message⟩

/-- Whether a notice tells why a device binary could not be used. -/
inductive Rejected : Trial → Notice → Prop
  /-- It could not because of an error. -/
  | rejection (blob : NamedBlob) (error : DeviceError) :
    Rejected ⟨blob, .error error⟩ (.rejection blob error)

/-- The attempt that is noted for a trial. -/
def attempt (trial : Trial) : BinaryAttempt :=
  match trial.outcome with
  | .ok _ => ⟨trial.blob.name, .built⟩
  | .error error => ⟨trial.blob.name, .ofError error⟩

theorem tells_attempt (trial : Trial) : trial.Tells trial.attempt := by
  obtain ⟨blob, outcome⟩ := trial
  cases outcome with
  | ok made => exact .built blob made
  | error error =>
      cases error with
      | entryPointMissing name => exact .entryPointMissing blob name
      | buildFailed log => exact .buildFailed blob log
      | _ => exact .otherwise blob _ nofun nofun

theorem forall₂_tells (trials : List Trial) : List.Forall₂ Tells trials (trials.map attempt) := by
  rw [List.forall₂_map_right_iff, List.forall₂_same]
  exact fun trial _ => trial.tells_attempt

/-- Binaries that could not be used have one notice each. -/
theorem forall₂_rejected {trials : List Trial}
    (failed : ∀ trial ∈ trials, trial.outcome.isOk = false) :
    List.Forall₂ Rejected trials ((trials.map attempt).filterMap BinaryAttempt.notice?) := by
  induction trials with
  | nil => exact .nil
  | cons trial rest induction =>
      rw [List.forall_mem_cons] at failed
      obtain ⟨blob, error | made⟩ := trial
      · have noted : BinaryAttempt.notice? (attempt ⟨blob, .error error⟩) =
            some (.rejection blob error) := BinaryAttempt.notice?_of_error blob error
        rw [List.map_cons, List.filterMap_cons_some noted]
        exact .cons (.rejection blob error) (induction failed.2)
      · cases failed.1

end Trial

/-! ## One after the other -/

section

variable {σ : Type} [Device σ]

/-- Builds a device binary and makes its kernel: what comes of it, and the device after it. -/
def NamedBlob.trial (launch : Launch) (blob : NamedBlob) (device : σ) :
    Except DeviceError (Handle .program × Handle .kernel) × σ :=
  match Device.perform (.buildProgram (.binary blob.bytes) launch.optionString) device with
  | (.error error, next) => (.error error, next)
  | (.ok program, next) =>
    match Device.perform (.createKernel program launch.kernelName) next with
    | (.error error, last) => (.error error, last)
    | (.ok kernel, last) => (.ok (program, kernel), last)

/-- What comes of device binaries one after the other, each whatever came of those before. -/
def trials (launch : Launch) (device : σ) : List NamedBlob → List Trial
  | [] => []
  | blob :: rest =>
    ⟨blob, (blob.trial launch device).1⟩ :: trials launch (blob.trial launch device).2 rest

/-- The device after device binaries were tried, whatever came of each. -/
def afterTrials (launch : Launch) (device : σ) (blobs : List NamedBlob) : σ :=
  blobs.foldl (fun reached blob => (blob.trial launch reached).2) device

theorem blobs_trials (launch : Launch) (device : σ) (blobs : List NamedBlob) :
    (trials launch device blobs).map (·.blob) = blobs := by
  induction blobs generalizing device with
  | nil => rfl
  | cons blob rest induction => rw [trials, List.map_cons, induction]

theorem trials_take (launch : Launch) (device : σ) (blobs : List NamedBlob) (count : Nat) :
    trials launch device (blobs.take count) = (trials launch device blobs).take count := by
  induction blobs generalizing device count with
  | nil => rw [List.take_nil, trials, List.take_nil]
  | cons blob rest induction =>
      cases count with
      | zero => rfl
      | succ count =>
          rw [List.take_succ_cons, trials, trials, List.take_succ_cons, induction]

theorem trials_cons {launch : Launch} {blob : NamedBlob} {device next : σ}
    {outcome : Except DeviceError (Handle .program × Handle .kernel)}
    (run : blob.trial launch device = (outcome, next)) (rest : List NamedBlob) :
    trials launch device (blob :: rest) = ⟨blob, outcome⟩ :: trials launch next rest := by
  rw [trials, run]

theorem afterTrials_cons {launch : Launch} {blob : NamedBlob} {device next : σ}
    {outcome : Except DeviceError (Handle .program × Handle .kernel)}
    (run : blob.trial launch device = (outcome, next)) (rest : List NamedBlob) :
    afterTrials launch device (blob :: rest) = afterTrials launch next rest := by
  rw [afterTrials, List.foldl_cons, run]
  rfl

namespace AcquiredProgram

variable {launch : Launch} {blobs : List NamedBlob} {device : σ}

theorem tryBinary_apply (launch : Launch) (blob : NamedBlob) (device : σ) :
    tryBinary launch blob device =
      (.ok (blob.trial launch device).1, (blob.trial launch device).2) := by
  rw [tryBinary, DeviceM.bind_apply, DeviceM.attempt, NamedBlob.trial]
  generalize Device.perform (.buildProgram (.binary blob.bytes) launch.optionString) device = built
  obtain ⟨error | program, next⟩ := built
  · rfl
  · dsimp only
    rw [DeviceM.bind_apply, DeviceM.attempt]
    generalize Device.perform (.createKernel program launch.kernelName) next = made
    obtain ⟨error | kernel, last⟩ := made <;> rfl

theorem ofBinaries_of_usable {blob : NamedBlob} {next : σ}
    {made : Handle .program × Handle .kernel}
    (run : blob.trial launch device = (.ok made, next)) (rejected : List BinaryAttempt)
    (rest : List NamedBlob) :
    ofBinaries launch rejected (blob :: rest) device =
      (.ok ⟨.binary, made.1, made.2, some blob.name, rejected ++ [⟨blob.name, .built⟩]⟩, next) := by
  rw [ofBinaries, DeviceM.bind_apply, tryBinary_apply, run]
  rfl

theorem ofBinaries_of_failed {blob : NamedBlob} {next : σ} {error : DeviceError}
    (run : blob.trial launch device = (.error error, next)) (rejected : List BinaryAttempt)
    (rest : List NamedBlob) :
    ofBinaries launch rejected (blob :: rest) device =
      ofBinaries launch (rejected ++ [Trial.attempt ⟨blob, .error error⟩]) rest next := by
  rw [ofBinaries, DeviceM.bind_apply, tryBinary_apply, run]
  rfl

/-- The first device binary that can be used is selected, after those before it. -/
theorem ofBinaries_of_selected {index : Nat} {blob : NamedBlob}
    {made : Handle .program × Handle .kernel}
    (usable : (trials launch device blobs)[index]? = some ⟨blob, .ok made⟩)
    (failed : ∀ trial ∈ (trials launch device blobs).take index, trial.outcome.isOk = false)
    (rejected : List BinaryAttempt) :
    ofBinaries launch rejected blobs device =
      (.ok ⟨.binary, made.1, made.2, some blob.name,
          rejected ++ ((trials launch device blobs).take (index + 1)).map Trial.attempt⟩,
        afterTrials launch device (blobs.take (index + 1))) := by
  induction blobs generalizing rejected device index with
  | nil => cases usable
  | cons first rest induction =>
      cases run : first.trial launch device with
      | mk outcome next =>
      rw [trials_cons run] at usable failed ⊢
      rw [List.take_succ_cons, List.take_succ_cons, List.map_cons, afterTrials_cons run]
      cases index with
      | zero =>
          cases usable
          exact ofBinaries_of_usable run rejected rest
      | succ index =>
          rw [List.take_succ_cons, List.forall_mem_cons] at failed
          cases outcome with
          | ok _ => cases failed.1
          | error error =>
              rw [ofBinaries_of_failed run, induction usable failed.2, List.append_assoc,
                List.singleton_append]

/-- If no device binary can be used, the error tells of all. -/
theorem ofBinaries_of_exhausted
    (failed : ∀ trial ∈ trials launch device blobs, trial.outcome.isOk = false)
    (rejected : List BinaryAttempt) :
    ofBinaries launch rejected blobs device =
      (.error (.noUsableBinary (rejected ++ (trials launch device blobs).map Trial.attempt)),
        afterTrials launch device blobs) := by
  induction blobs generalizing rejected device with
  | nil =>
      rw [trials, List.map_nil, List.append_nil]
      rfl
  | cons first rest induction =>
      cases run : first.trial launch device with
      | mk outcome next =>
      rw [trials_cons run, List.forall_mem_cons] at failed
      cases outcome with
      | ok _ => cases failed.1
      | error error =>
          rw [ofBinaries_of_failed run, induction failed.2, trials_cons run, List.map_cons,
            afterTrials_cons run, List.append_assoc, List.singleton_append]

end AcquiredProgram

/-! ## On a traced device -/

/-- Whether some exchanges are those in which a device binary is tried, with what came of it. -/
def Trial.Exchanged (launch : Launch) (trial : Trial) (exchanges : List Exchange) : Prop :=
  ∃ outcome, Attempt launch (.binary trial.blob.bytes) exchanges outcome ∧
    trial.outcome.map Prod.snd = outcome.mapError Refusal.error

/-- A device binary is tried on a traced device as on the device itself. -/
theorem NamedBlob.trial_traced (launch : Launch) (blob : NamedBlob) (before : Traced σ) :
    ∃ exchanges, Trial.Exchanged launch ⟨blob, (blob.trial launch before.device).1⟩ exchanges ∧
      blob.trial launch before = ((blob.trial launch before.device).1,
        ⟨(blob.trial launch before.device).2, before.history ++ exchanges⟩) := by
  obtain ⟨exchanges, met, ended⟩ := AcquiredProgram.records_tryBinary launch blob before
  rw [AcquiredProgram.tryBinary_apply] at met
  rw [AcquiredProgram.tryBinary_apply, AcquiredProgram.tryBinary_apply] at ended
  refine ⟨exchanges, ?_, ?_⟩
  · rcases met with ⟨refusal, failed, attempt⟩ | ⟨program, kernel, made, attempt⟩
    · exact ⟨_, attempt, by rw [Except.ok.inj failed]; rfl⟩
    · exact ⟨_, attempt, by rw [Except.ok.inj made]; rfl⟩
  · obtain ⟨same_outcome, same_device⟩ := DeviceM.run_eq_iff.mp ended
    exact Prod.ext (Except.ok.inj same_outcome) same_device

/-- Device binaries are tried on a traced device as on the device itself, and the exchanges are
those of the trials. -/
theorem trials_traced (launch : Launch) (blobs : List NamedBlob) (before : Traced σ) :
    trials launch before blobs = trials launch before.device blobs ∧
      ∃ parts, List.Forall₂ (Trial.Exchanged launch) (trials launch before.device blobs) parts ∧
        afterTrials launch before blobs =
          ⟨afterTrials launch before.device blobs, before.history ++ parts.flatten⟩ := by
  induction blobs generalizing before with
  | nil => exact ⟨rfl, [], .nil, by simp [afterTrials]⟩
  | cons blob rest induction =>
      obtain ⟨exchanges, exchanged, run⟩ := blob.trial_traced launch before
      obtain ⟨same, parts, related, reached⟩ :=
        induction ⟨(blob.trial launch before.device).2, before.history ++ exchanges⟩
      rw [trials_cons run, afterTrials_cons run, same, reached]
      refine ⟨rfl, exchanges :: parts, .cons exchanged related, ?_⟩
      rw [List.flatten_cons, ← List.append_assoc]
      rfl

end

/-! ## On a simulated device -/

theorem Bytes.ofText_eq_nil_iff {text : String} : ofText text = [] ↔ text = "" := by
  rw [ofText, Array.toList_eq_nil_iff, ← String.toByteArray_eq_empty_iff, ByteArray.ext_iff]
  rfl

namespace Simulator

variable {κ : Type}

/-- A simulated device can use a binary in which the name of the entry point occurs. -/
structure Usable (launch : Launch) (blob : NamedBlob) : Prop where
  /-- The binary is not empty. -/
  built : blob.bytes ≠ []
  /-- The entry point has a name. -/
  named : launch.kernelName ≠ ""
  /-- Its bytes occur somewhere in the binary, one after the other. -/
  occurs : Bytes.ofText launch.kernelName <:+: blob.bytes

theorem hasEntryPoint_iff {program : Bytes} {name : String} :
    hasEntryPoint program name = true ↔ name ≠ "" ∧ Bytes.ofText name <:+: program := by
  rw [hasEntryPoint, Bool.and_eq_true, Bool.not_eq_true', List.isEmpty_eq_false_iff,
    Text.occurs_iff, Ne, Bytes.ofText_eq_nil_iff]
  exact and_congr_right fun _ => exists₂_congr fun _ _ => eq_comm

theorem trial_of_empty {blob : NamedBlob} (empty : blob.bytes = []) (launch : Launch)
    (state : Simulator κ) :
    blob.trial launch state = (.error (.buildFailed "empty program image"),
      { state with builds := state.builds ++ [⟨.binary, launch.optionString, false⟩] }) := by
  rw [NamedBlob.trial, empty]
  rfl

/-- A binary that is not empty is built, and the kernel is made if the entry point occurs in it. -/
theorem trial_of_full {blob : NamedBlob} (full : blob.bytes ≠ []) (launch : Launch)
    (state : Simulator κ) :
    let built : Simulator κ :=
      { state with
        programs := state.programs ++ [blob.bytes]
        builds := state.builds ++ [⟨.binary, launch.optionString, true⟩] }
    blob.trial launch state =
      if hasEntryPoint blob.bytes launch.kernelName then
        (.ok (⟨state.programs.length⟩, ⟨state.kernels.length⟩),
          { built with kernels := state.kernels ++ [⟨launch.kernelName, .empty⟩] })
      else (.error (.entryPointMissing launch.kernelName), built) := by
  intro built
  have built_ok : state.buildProgram (.binary blob.bytes) launch.optionString =
      (.ok ⟨state.programs.length⟩, built) := by
    simp [buildProgram, compile, full, built, ProgramImage.tier]
  have found : built.programs[state.programs.length]? = some blob.bytes := by simp [built]
  rw [NamedBlob.trial, perform_buildProgram, built_ok]
  simp only [perform_createKernel, createKernel, found]
  cases hasEntryPoint blob.bytes launch.kernelName <;> rfl

theorem isOk_trial_iff (launch : Launch) (blob : NamedBlob) (state : Simulator κ) :
    (blob.trial launch state).1.isOk = true ↔ Usable launch blob := by
  by_cases empty : blob.bytes = []
  · rw [trial_of_empty empty]
    exact iff_of_false nofun fun usable => usable.built empty
  · rw [trial_of_full empty]
    split
    · rename_i occurs
      obtain ⟨named, occurs⟩ := hasEntryPoint_iff.mp occurs
      exact iff_of_true rfl ⟨empty, named, occurs⟩
    · rename_i absent
      exact iff_of_false nofun fun usable =>
        absent (hasEntryPoint_iff.mpr ⟨usable.named, usable.occurs⟩)

theorem builds_trial (launch : Launch) (blob : NamedBlob) (state : Simulator κ) :
    (blob.trial launch state).2.builds =
      state.builds ++ [⟨.binary, launch.optionString, !blob.bytes.isEmpty⟩] := by
  by_cases empty : blob.bytes = []
  · rw [trial_of_empty empty, empty]
    rfl
  · rw [trial_of_full empty, List.isEmpty_eq_false_iff.mpr empty]
    split <;> rfl

theorem isOk_of_mem_trials (launch : Launch) {blobs : List NamedBlob} {state : Simulator κ}
    {trial : Trial} (trial_mem : trial ∈ trials launch state blobs) :
    trial.outcome.isOk = true ↔ Usable launch trial.blob := by
  induction blobs generalizing state with
  | nil => cases trial_mem
  | cons blob rest induction =>
      rcases List.mem_cons.mp trial_mem with rfl | later
      · exact isOk_trial_iff launch blob state
      · exact induction later

/-- Every trial leaves one record of a build. -/
theorem builds_afterTrials (launch : Launch) (blobs : List NamedBlob) (state : Simulator κ) :
    (afterTrials launch state blobs).builds =
      state.builds ++
        blobs.map fun blob => ⟨.binary, launch.optionString, !blob.bytes.isEmpty⟩ := by
  induction blobs generalizing state with
  | nil =>
      rw [List.map_nil, List.append_nil]
      rfl
  | cons blob rest induction =>
      rw [afterTrials, List.foldl_cons, ← afterTrials, induction, builds_trial, List.map_cons,
        List.append_assoc, List.singleton_append]

end Simulator

/-! ## Acquiring a program -/

theorem Trial.exists_first_usable {trials : List Trial}
    (some_usable : ¬ ∀ trial ∈ trials, trial.outcome.isOk = false) :
    ∃ index blob made, trials[index]? = some ⟨blob, .ok made⟩ ∧
      ∀ trial ∈ trials.take index, trial.outcome.isOk = false := by
  induction trials with
  | nil => exact absurd (by simp) some_usable
  | cons trial rest induction =>
      obtain ⟨blob, error | made⟩ := trial
      · have later : ¬ ∀ trial ∈ rest, trial.outcome.isOk = false := fun failed =>
          some_usable (List.forall_mem_cons.mpr ⟨rfl, failed⟩)
        obtain ⟨index, other, made, usable, failed⟩ := induction later
        exact ⟨index + 1, other, made, usable, List.forall_mem_cons.mpr ⟨rfl, failed⟩⟩
      · exact ⟨0, blob, made, rfl, by simp⟩

/-- How device binaries are accounted for when a program is acquired from them. -/
structure Accounted {σ : Type} [Device σ] (launch : Launch) (device : σ)
    (blobs : List NamedBlob) : Prop where
  /-- The trials are those of the binaries, in their order. -/
  candidates : (trials launch device blobs).map (·.blob) = blobs
  /-- The first binary that can be used is selected, with the program and the kernel made from it.
  One attempt tells of each binary up to there, and one notice of each before it. No call is made
  after its trial: on a traced device the exchanges are those of the trials up to there. -/
  selected : ∀ index blob made,
    (trials launch device blobs)[index]? = some ⟨blob, .ok made⟩ →
    (∀ trial ∈ (trials launch device blobs).take index, trial.outcome.isOk = false) →
    ∃ acquired,
      (Program.binaries blobs).acquire launch device =
        (.ok acquired, afterTrials launch device (blobs.take (index + 1))) ∧
      acquired.tier = .binary ∧ (acquired.program, acquired.kernel) = made ∧
      acquired.selected = some blob.name ∧
      List.Forall₂ Trial.Tells ((trials launch device blobs).take (index + 1)) acquired.attempts ∧
      List.Forall₂ Trial.Rejected ((trials launch device blobs).take index) acquired.notices ∧
      ∀ history, ∃ parts,
        List.Forall₂ (Trial.Exchanged launch) ((trials launch device blobs).take (index + 1))
          parts ∧
        (Program.binaries blobs).acquire launch (Traced.mk device history) =
          (.ok acquired,
            ⟨afterTrials launch device (blobs.take (index + 1)), history ++ parts.flatten⟩)
  /-- If no binary can be used, the error has one attempt for each of them. -/
  exhausted : (∀ trial ∈ trials launch device blobs, trial.outcome.isOk = false) →
    ∃ attempts,
      (Program.binaries blobs).acquire launch device =
        (.error (.noUsableBinary attempts), afterTrials launch device blobs) ∧
      List.Forall₂ Trial.Tells (trials launch device blobs) attempts
  /-- There is no other error. -/
  errors : ∀ error after,
    (Program.binaries blobs).acquire launch device = (.error error, after) →
    ∃ attempts, error = .noUsableBinary attempts

section

variable {σ : Type} [Device σ] {launch : Launch} {blobs : List NamedBlob}

theorem Program.acquire_binaries (some_blob : blobs ≠ []) (launch : Launch) :
    ((Program.binaries blobs).acquire launch : DeviceM σ ReplayError _) =
      AcquiredProgram.ofBinaries launch [] blobs := by
  cases blobs with
  | nil => exact absurd rfl some_blob
  | cons blob rest => rfl

/-- The last attempt, with the binary that is used, has no notice. -/
theorem Trial.filterMap_notice?_of_usable {trials : List Trial} {index : Nat} {blob : NamedBlob}
    {made : Handle .program × Handle .kernel} (usable : trials[index]? = some ⟨blob, .ok made⟩) :
    ((trials.take (index + 1)).map attempt).filterMap BinaryAttempt.notice? =
      ((trials.take index).map attempt).filterMap BinaryAttempt.notice? := by
  rw [List.take_add_one, usable, List.map_append, List.filterMap_append]
  exact List.append_nil _

theorem accounted (some_blob : blobs ≠ []) (launch : Launch) (device : σ) :
    Accounted launch device blobs where
  candidates := blobs_trials launch device blobs
  selected index blob made usable failed := by
    rw [Program.acquire_binaries some_blob]
    refine ⟨_, AcquiredProgram.ofBinaries_of_selected usable failed [], rfl, rfl, rfl,
      Trial.forall₂_tells _, ?_, fun history => ?_⟩
    · rw [AcquiredProgram.notices, List.nil_append, Trial.filterMap_notice?_of_usable usable]
      exact Trial.forall₂_rejected failed
    · obtain ⟨same, _⟩ := trials_traced launch blobs (Traced.mk device history)
      obtain ⟨_, parts, related, reached⟩ :=
        trials_traced launch (blobs.take (index + 1)) (Traced.mk device history)
      refine ⟨parts, trials_take launch device blobs _ ▸ related, ?_⟩
      rw [Program.acquire_binaries some_blob, AcquiredProgram.ofBinaries_of_selected
        (same.symm ▸ usable) (same.symm ▸ failed) [], same, reached]
  exhausted failed := by
    rw [Program.acquire_binaries some_blob]
    exact ⟨_, AcquiredProgram.ofBinaries_of_exhausted failed [], Trial.forall₂_tells _⟩
  errors error after run := by
    rw [Program.acquire_binaries some_blob] at run
    by_cases failed : ∀ trial ∈ trials launch device blobs, trial.outcome.isOk = false
    · rw [AcquiredProgram.ofBinaries_of_exhausted failed []] at run
      cases run
      exact ⟨_, rfl⟩
    · obtain ⟨index, blob, made, usable, before_failed⟩ := Trial.exists_first_usable failed
      rw [AcquiredProgram.ofBinaries_of_selected usable before_failed []] at run
      cases run

end

/-- Whatever a device answers, the first device binary that can be used is selected, and every one
up to there is accounted for. A simulated device can use the binaries in which the name of the entry
point occurs, and has one more record of a build for each that was tried. -/
theorem first_usable_acquired (launch : Launch) {blobs : List NamedBlob} (some_blob : blobs ≠ []) :
    (∀ (σ : Type) [Device σ] (device : σ), Accounted launch device blobs) ∧
    ∀ (κ : Type) (state : Simulator κ),
      (∀ trial ∈ trials launch state blobs,
        trial.outcome.isOk = true ↔ Simulator.Usable launch trial.blob) ∧
      ∀ count, (afterTrials launch state (blobs.take count)).builds =
        state.builds ++ (blobs.take count).map fun blob =>
          ⟨.binary, launch.optionString, !blob.bytes.isEmpty⟩ :=
  ⟨fun _ _ device => accounted some_blob launch device, fun _ state =>
    ⟨fun _ => Simulator.isOk_of_mem_trials launch,
      fun _ => Simulator.builds_afterTrials launch _ state⟩⟩

/-- Device binaries of which the first is empty and the second lacks the entry point. -/
def unevenBlobs : List NamedBlob :=
  [⟨"DeviceBinary0.bin", []⟩, ⟨"DeviceBinary1.bin", Bytes.ofText "bar baz"⟩,
    ⟨"DeviceBinary2.bin", 127 :: Bytes.ofText "ELF foo"⟩, ⟨"DeviceBinary3.bin", Bytes.ofText "foo"⟩]

/-- A launch of an entry point that only the later of them have. -/
def fooLaunch : Launch := ⟨⟨1⟩, "foo", ["-DN=4"], ⟨[8], [0], [0]⟩⟩

theorem first_usable_acquired_unevenBlobs :
    ∃ acquired after, (Program.binaries unevenBlobs).acquire fooLaunch
        (Simulator.new .plain ()) = (.ok acquired, after) ∧
      acquired.selected = some "DeviceBinary2.bin" ∧ acquired.kernel = ⟨0⟩ ∧
      acquired.attempts.length = 3 ∧ acquired.notices.length = 2 ∧
      after.builds.map (·.succeeded) = [false, true, true] := by
  obtain ⟨accounts, simulated⟩ := first_usable_acquired fooLaunch (by decide : unevenBlobs ≠ [])
  obtain ⟨acquired, run, _, made, selected, tells, rejected, _⟩ :=
    (accounts (Simulator Unit) (.new .plain ())).selected 2
      ⟨"DeviceBinary2.bin", 127 :: Bytes.ofText "ELF foo"⟩ (⟨1⟩, ⟨0⟩) (by decide +kernel)
      (by decide +kernel)
  refine ⟨acquired, _, run, selected, congrArg Prod.snd made, tells.length_eq.symm,
    rejected.length_eq.symm, ?_⟩
  rw [(simulated Unit (.new .plain ())).2 3]
  decide +kernel

end LaunchReplay
