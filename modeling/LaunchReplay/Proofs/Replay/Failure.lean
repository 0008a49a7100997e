import LaunchReplay.Proofs.Replay.Files
import LaunchReplay.Proofs.Replay.Order
import LaunchReplay.Proofs.Validation.IdleReplay

/-!
# What a failed replay leaves

A replay that fails before its outputs are written leaves the file tree as it was. One that fails
while they are written has written the first of them, in ascending position, and nothing of the
others. Apart from those files it made nothing but the directory of outputs and what was missing
above that.
-/

namespace LaunchReplay

open FileTree

/-! ## Before outputs are written -/

theorem Refusal.replayError_ne_output (refusal : Refusal) (path : Path) (reason : FileError) :
    refusal.replayError ≠ .output path reason := by
  rcases refusal.replayError_eq with ⟨_, same⟩ | ⟨_, _, same⟩ <;> simp [same]

theorem Acquires.error_ne_output {launch : Launch} {program : Program} {exchanges : List Exchange}
    {error : ReplayError} (acquires : Acquires launch program exchanges (.error error))
    (path : Path) (reason : FileError) : error ≠ .output path reason := by
  have of_attempt {outcome : Except Refusal (Handle .kernel)}
      (failed : outcome.mapError Refusal.replayError = .error error) :
      error ≠ .output path reason := by
    obtain ⟨refusal, _, rfl⟩ := Outcome.mapError_error.mp failed
    exact refusal.replayError_ne_output path reason
  generalize ended : Except.error error = outcome at acquires
  cases acquires with
  | source _ | intermediate _ => exact of_attempt ended.symm
  | absent | exhausted _ _ =>
      cases ended
      simp
  | accepted _ => cases ended

/-- What fails on a device fails for another reason than files. -/
theorem DeviceReplay.error_ne_output {σ : Type} [Device σ] {config : ReplayConfig}
    {capture : Capture} {device used : σ} {error : ReplayError}
    (failed : perform config capture device = (.error error, used)) (path : Path)
    (reason : FileError) : error ≠ .output path reason := by
  obtain ⟨_, ⟨acquiring, working, acquired, _, traffic⟩, _⟩ :=
    records_perform config capture ⟨device, []⟩
  rw [failed] at traffic
  cases ended : acquired with
  | error _ =>
      obtain ⟨_, ⟨⟩⟩ := traffic.unacquired _ ended
      have acquires := traffic.acquires
      rw [ended] at acquires
      exact acquires.error_ne_output path reason
  | ok kernel =>
      rcases (traffic.works kernel ended).error_eq with ⟨_, _, _, rfl⟩ | rfl | ⟨refusal, rfl⟩
      · simp
      · simp
      · exact refusal.replayError_ne_output path reason

/-! ## While outputs are written -/

/-- What is left of a file tree when some first outputs are written into a directory, and the others
are not. -/
structure Output.WroteFirst (count : Nat) (outputs : List Output) (target : Location)
    (enqueue : Enqueue) (kernelName : String) (before after : FileTree) : Prop where
  /-- Each of the first outputs is in its file. -/
  held : ∀ output ∈ outputs.take count,
    after.entry? (target ++ [output.fileName enqueue kernelName]) = some (.file output.bytes)
  /-- The file of each other output is as it was, if there is one. -/
  untouched : ∀ output ∈ outputs.drop count,
    after.entry? (target ++ [output.fileName enqueue kernelName]) =
      before.entry? (target ++ [output.fileName enqueue kernelName])
  /-- All else is as it was, but for the directory and those above it that were missing. -/
  elsewhere : ∀ location,
    (∀ output ∈ outputs.take count, location ≠ target ++ [output.fileName enqueue kernelName]) →
      after.entry? location = before.entry? location ∨
        (location <+: target ∧ before.entry? location = none ∧
          after.entry? location = some .directory)
  /-- Relative paths start where they did. -/
  workingDirectory : after.workingDirectory = before.workingDirectory

namespace Output

variable {before made after : FileTree} {root directory : Path} {base place : Location}
  {inner : List PathSegment} {enqueue : Enqueue} {kernelName : String}
  {outputs written unwritten : List Output} {paths : List Path}
  (reached : before.Reaches root base) (goes_on : GoesOn root inner directory)
  (descends : .up ∉ inner) (plain : '/' ∉ kernelName.toList)

include reached goes_on descends plain

/-- An output is placed under its name in the directory. -/
theorem place_eq {output : Output} {name : String}
    (places : Places before (output.path directory enqueue kernelName) place name) :
    place ++ [name] =
      base ++ inner.filterMap PathSegment.name? ++ [output.fileName enqueue kernelName] := by
  have named : Path.IsName (output.fileName enqueue kernelName) := isName_fileName plain output
  have further := goes_on.trans (goesOn_path directory enqueue kernelName output)
  rw [Path.segments_of_isName named] at further
  rw [place_of_goesOn reached further (by simp) (by simpa using descends) places.placed,
    List.filterMap_append, List.append_assoc]
  rfl

/-- Outputs that were all written changed nothing but their files. -/
theorem entry?_elsewhere
    (wrote : writeEach directory enqueue kernelName before outputs = (.ok paths, after))
    (elsewhere : ∀ output ∈ outputs, place ≠
      base ++ inner.filterMap PathSegment.name? ++ [output.fileName enqueue kernelName]) :
    after.entry? place = before.entry? place := by
  induction outputs generalizing before paths with
  | nil =>
      cases wrote
      rfl
  | cons output rest induction =>
      obtain ⟨middle, later, stepped, remaining⟩ := writeEach_cons_ok wrote
      rw [List.forall_mem_cons] at elsewhere
      have kept := (writeFile_keeps stepped).reaches reached
      rw [induction kept remaining elsewhere.2]
      obtain ⟨_, _, places, _, rfl⟩ := writeFile_ok stepped
      rw [entry?_put (by simp), place_eq reached goes_on descends plain places,
        if_neg (Ne.symm elsewhere.1)]

/-- Outputs that were all written are in their files. -/
theorem entry?_fileName (apart : (outputs.map (·.position)).Nodup)
    (wrote : writeEach directory enqueue kernelName before outputs = (.ok paths, after)) :
    ∀ output ∈ outputs, after.entry?
      (base ++ inner.filterMap PathSegment.name? ++ [output.fileName enqueue kernelName]) =
        some (.file output.bytes) := by
  have keeps := writeEach_keeps directory enqueue kernelName before outputs
  rw [wrote] at keeps
  intro output output_mem
  obtain ⟨_, _, places, held⟩ := (holds_of_writeEach apart wrote output output_mem).held
  rwa [place_eq (keeps.reaches reached) goes_on descends plain places] at held

/-- If all directories are made on the way and then some first outputs are written, nothing else is
changed. -/
theorem wroteFirst_of_writeEach (apart : ((written ++ unwritten).map (·.position)).Nodup)
    (adds : AddsDirectories (· <+: base ++ inner.filterMap PathSegment.name?) before made)
    (wrote : writeEach directory enqueue kernelName made written = (.ok paths, after)) :
    WroteFirst written.length (written ++ unwritten)
      (base ++ inner.filterMap PathSegment.name?) enqueue kernelName before after := by
  have still_reached := adds.keeps.reaches reached
  have keeps := writeEach_keeps directory enqueue kernelName made written
  rw [wrote] at keeps
  have outside (location : Location) (other : ∀ output ∈ written, location ≠
      base ++ inner.filterMap PathSegment.name? ++ [output.fileName enqueue kernelName]) :
      after.entry? location = before.entry? location ∨
        (location <+: base ++ inner.filterMap PathSegment.name? ∧
          before.entry? location = none ∧ after.entry? location = some .directory) := by
    rw [entry?_elsewhere still_reached goes_on descends plain wrote other]
    exact adds.entry?_eq_or location
  have names : ((written ++ unwritten).map (fileName enqueue kernelName)).Nodup :=
    nodup_fileNames apart
  rw [List.map_append, List.nodup_append] at names apart
  refine ⟨?_, ?_, ?_, keeps.workingDirectory.trans adds.keeps.workingDirectory⟩
  · rw [List.take_left]
    exact entry?_fileName still_reached goes_on descends plain apart.1 wrote
  · rw [List.drop_left]
    intro output output_mem
    refine (outside _ fun other other_mem same => ?_).resolve_right fun ⟨leads, _⟩ => ?_
    · have same_name := (List.append_singleton_inj.mp same).2
      exact names.2.2 _ (List.mem_map_of_mem other_mem) _ (List.mem_map_of_mem output_mem)
        same_name.symm
    -- The file is below the directory, so it is not on the way to it.
    · have shorter := leads.length_le
      simp at shorter
  · rw [List.take_left]
    exact outside

/-- Outputs that cannot all be written are written up to one that is not. -/
theorem wroteFirst_of_writeAll {error : ReplayError} (nonempty : outputs ≠ [])
    (apart : (outputs.map (·.position)).Nodup)
    (failed : writeAll directory enqueue kernelName outputs before = (.error error, after)) :
    ∃ count < outputs.length, ∃ path reason, error = .output path reason ∧
      ((count = 0 ∧ path = directory) ∨
        outputs[count]?.map (Output.path directory enqueue kernelName) = some path) ∧
      WroteFirst count outputs (base ++ inner.filterMap PathSegment.name?) enqueue kernelName
        before after := by
  have adds := ensureDirectories_leads reached goes_on descends
  rw [writeAll] at failed
  split at failed
  · rename_i reason made ensured
    cases failed
    rw [ensured] at adds
    have nothing_written : writeEach directory enqueue kernelName after [] = (.ok [], after) := rfl
    have all_unwritten : (([] ++ outputs : List Output).map (·.position)).Nodup := apart
    exact ⟨0, List.length_pos_of_ne_nil nonempty, directory, reason, rfl, .inl ⟨rfl, rfl⟩,
      wroteFirst_of_writeEach reached goes_on descends plain all_unwritten adds nothing_written⟩
  · rename_i made ensured
    rw [ensured] at adds
    obtain ⟨written, stuck, unwritten, paths, reason, rfl, wrote, rfl⟩ :=
      exists_stuck_of_error failed
    exact ⟨written.length, by simp, _, reason, rfl, .inr (by simp),
      wroteFirst_of_writeEach reached goes_on descends plain apart adds wrote⟩

end Output

/-! ## All of a replay -/

namespace Replay

variable {σ : Type} [Device σ] {config : ReplayConfig} {tree after : FileTree} {root : Path}
  {device used : σ} {error : ReplayError}

/-- A replay that fails does so before outputs are written, and changes nothing, or all that it does
on the device succeeds and writing the outputs does not. -/
theorem run_error (failed : run config root tree device = (.error error, after, used)) :
    (after = tree ∧ ∀ path reason, error ≠ .output path reason) ∨
      ∃ capture work, Capture.read tree root ⟨config.forceSvm⟩ = .ok capture ∧
        DeviceReplay.perform config capture device = (.ok work, used) ∧
        write config capture work.outputs tree = (.error error, after) := by
  unfold run at failed
  split at failed
  · cases failed
    exact .inl ⟨rfl, by simp⟩
  · rename_i capture read
    rw [replay] at failed
    split at failed
    · rename_i performed
      cases failed
      exact .inl ⟨rfl, DeviceReplay.error_ne_output performed⟩
    · rename_i work _ performed
      split at failed
      · rename_i wrote
        cases failed
        exact .inr ⟨capture, work, read, performed, wrote⟩
      · cases failed

/-- A replay that fails for another reason than that an output cannot be written leaves the file
tree as it was. If an output cannot be written, those at smaller positions are in their files, and
nothing else has changed but that the directory of outputs was made, with those above it that were
missing. -/
theorem run_failed (config : ReplayConfig) (root : Path) (tree : FileTree) (device : σ)
    (relative : config.testDirectory.isAbsolute = false)
    (descends : .up ∉ config.testDirectory.segments)
    (plain : ∀ capture, Capture.read tree root ⟨config.forceSvm⟩ = .ok capture →
      '/' ∉ capture.launch.kernelName.toList)
    (failed : run config root tree device = (.error error, after, used)) :
    ((∀ path reason, error ≠ .output path reason) → after = tree) ∧
      ∀ path reason, error = .output path reason →
        ∃ capture work base, Capture.read tree root ⟨config.forceSvm⟩ = .ok capture ∧
          DeviceReplay.perform config capture device = (.ok work, used) ∧
          tree.Reaches root base ∧ (work.outputs.map (·.position)).Pairwise (· < ·) ∧
          ∃ count < work.outputs.length,
            ((count = 0 ∧ path = root.join config.testDirectory) ∨
              work.outputs[count]?.map (Output.path (root.join config.testDirectory)
                capture.launch.enqueue capture.launch.kernelName) = some path) ∧
            Output.WroteFirst count work.outputs (base ++ config.testDirectory.names)
              capture.launch.enqueue capture.launch.kernelName tree after := by
  rcases run_error failed with ⟨rfl, other⟩ | ⟨capture, work, read, performed, wrote⟩
  · exact ⟨fun _ => rfl, fun path reason same => absurd same (other path reason)⟩
  · obtain ⟨base, reached⟩ := Capture.exists_reaches_of_read read
    obtain ⟨rfl, _⟩ := Capture.read_ok read
    have ascending := capture.arguments.positions_ascending.sublist
      (DeviceReplay.outputs_sublist performed)
    obtain ⟨nonempty, wrote_all⟩ := writeAll_of_write wrote
    obtain ⟨count, among, stuck, cause, rfl, stuck_eq, first⟩ :=
      Output.wroteFirst_of_writeAll reached (.join relative) descends (plain capture read) nonempty
        (ascending.imp Nat.ne_of_lt) wrote_all
    refine ⟨fun other => absurd rfl (other stuck cause), fun path reason same => ?_⟩
    cases same
    exact ⟨capture, work, base, read, performed, reached, ascending, count, among, stuck_eq, first⟩

/-- A capture directory of a buffer and an image, where there is a directory with the name of the
output of the image. -/
def obstructed : FileTree where
  entries := Validation.halfChanged.entries ++
    [(["cap", "Test"], .directory),
      (["cap", "Test", "Enqueue_0001_Kernel_f_Arg_1_Image.raw"], .directory)]
  unique := by decide
  workingDirectory := []

theorem read_obstructed :
    Capture.read obstructed ⟨"cap"⟩ {} = .ok Validation.halfChangedCapture := by
  decide +kernel

theorem run_obstructed {config : ReplayConfig} (unforced : config.forceSvm = false) :
    run config ⟨"cap"⟩ obstructed addingDevice =
      replay config Validation.halfChangedCapture obstructed addingDevice := by
  unfold run
  rw [unforced, read_obstructed]

theorem outputs_of_obstructed :
    (DeviceReplay.perform {} Validation.halfChangedCapture addingDevice).1.map (·.outputs) =
      .ok [⟨0, .buffer, [2, 3]⟩, ⟨1, .image, [4]⟩] := by
  decide +kernel

/-- The buffer is written and the image is not, and without repetitions nothing is written. -/
theorem run_obstructed_failed :
    (∃ after used,
      run {} ⟨"cap"⟩ obstructed addingDevice =
        (.error (.output ⟨"cap/Test/Enqueue_0001_Kernel_f_Arg_1_Image.raw"⟩ .isDirectory), after,
          used) ∧
      Output.WroteFirst 1 [⟨0, .buffer, [2, 3]⟩, ⟨1, .image, [4]⟩] ["cap", "Test"] ⟨1⟩ "f"
        obstructed after) ∧
    ∃ used, run ⟨0, false, true, ⟨"Test"⟩⟩ ⟨"cap"⟩ obstructed addingDevice =
      (.error .noRepetitions, obstructed, used) := by
  have plain (capture : Capture) (read : Capture.read obstructed ⟨"cap"⟩ {} = .ok capture) :
      '/' ∉ capture.launch.kernelName.toList := by
    cases read_obstructed.symm.trans read
    decide
  constructor
  · obtain ⟨⟨after, used⟩, failed⟩ : ∃ rest, run {} ⟨"cap"⟩ obstructed addingDevice =
        (.error (.output ⟨"cap/Test/Enqueue_0001_Kernel_f_Arg_1_Image.raw"⟩ .isDirectory), rest) :=
      ⟨_, Prod.ext (by rw [run_obstructed rfl]; decide +kernel) rfl⟩
    obtain ⟨capture, work, base, read, performed, reached, _, count, among, stuck, first⟩ :=
      (run_failed {} ⟨"cap"⟩ obstructed addingDevice (by decide) (by decide) plain failed).2 _ _ rfl
    cases read_obstructed.symm.trans read
    obtain rfl : base = ["cap"] := reached.unique ⟨by decide, by decide⟩
    have outputs_eq : work.outputs = [⟨0, .buffer, [2, 3]⟩, ⟨1, .image, [4]⟩] := by
      have performed_outputs := outputs_of_obstructed
      rw [performed] at performed_outputs
      exact Except.ok.inj performed_outputs
    rw [outputs_eq] at among stuck first
    refine ⟨after, used, failed, ?_⟩
    match count, among with
    | 0, _ => exact absurd stuck (by decide)
    | 1, _ => exact first
  · obtain ⟨⟨after, used⟩, failed⟩ : ∃ rest, run ⟨0, false, true, ⟨"Test"⟩⟩ ⟨"cap"⟩ obstructed
        addingDevice = (.error .noRepetitions, rest) :=
      ⟨_, Prod.ext (by rw [run_obstructed rfl]; decide +kernel) rfl⟩
    have unchanged := (run_failed ⟨0, false, true, ⟨"Test"⟩⟩ ⟨"cap"⟩ obstructed addingDevice
      (by decide) (by decide) plain failed).1 (by simp)
    exact ⟨used, unchanged ▸ failed⟩

end Replay

end LaunchReplay
