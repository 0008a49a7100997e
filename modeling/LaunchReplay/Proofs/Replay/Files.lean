import LaunchReplay.Proofs.FileTree.Rewriting
import LaunchReplay.Proofs.Naming.FileStart
import LaunchReplay.Proofs.Replay.Confinement
import LaunchReplay.Proofs.Replay.Rereading

/-!
# Files of outputs

The last name in the path of an output has the position of the output in it, so outputs at different
positions have files of their own, whatever directories the name of the kernel leads through. After
all were written each file is what its output is, and writing them again changes nothing.
-/

namespace LaunchReplay

namespace Naming

/-- What the name of an output has after the name of the kernel. -/
def outputEnding (position : Nat) (kind : OutputKind) : String :=
  "_Arg_" ++ Text.decimal position ++ "_" ++ kind.label ++ kind.extension

theorem position_of_outputEnding {position other : Nat} {kind other_kind : OutputKind}
    (same : (outputEnding position kind).toList = (outputEnding other other_kind).toList) :
    position = other := by
  have names : outputName ⟨0⟩ "" position kind = outputName ⟨0⟩ "" other other_kind := by
    rw [outputName_eq, outputName_eq]
    exact congrArg _ (String.toList_inj.mp same)
  exact (eq_of_outputName_eq names).2.2.1

/-- The last name in the path of an output goes on, after what all outputs of a kernel have in
common, with the position and the kind. -/
theorem exists_last_of_outputName (enqueue : Enqueue) (kernel : String) :
    ∃ front, ∀ position kind,
      (Path.mk (outputName enqueue kernel position kind)).segments.getLast? =
        some (.name (String.ofList (front ++ (outputEnding position kind).toList))) := by
  obtain ⟨front, last_part⟩ :=
    Path.exists_last_part (enqueue.fileStart ++ "Kernel_" ++ kernel).toList
  refine ⟨front, fun position kind => ?_⟩
  have plain : '/' ∉ (outputEnding position kind).toList := by
    have digits := slash_notMem_toDigits position
    cases kind <;> simp [outputEnding, digits, OutputKind.label, OutputKind.extension]
  have shape : (outputName enqueue kernel position kind).toList =
      (enqueue.fileStart ++ "Kernel_" ++ kernel).toList ++ (outputEnding position kind).toList := by
    rw [← String.toList_append]
    exact congrArg String.toList (outputName_eq enqueue kernel position kind)
  apply Path.getLast?_segments
  · rw [shape, last_part _ plain]
  · simp [outputEnding]
    omega

end Naming

namespace Output

variable {before after tree : FileTree} {directory : Path} {enqueue : Enqueue}
  {kernelName : String} {outputs : List Output} {paths : List Path}

theorem getLast?_segments_path (output : Output) :
    (output.path directory enqueue kernelName).segments.getLast? =
      (Path.mk (output.fileName enqueue kernelName)).segments.getLast? := by
  rw [(goesOn_path directory enqueue kernelName output).segments,
    List.getLast?_append_of_ne_nil _ (segments_fileName_ne_nil enqueue kernelName output)]

/-- Outputs at different positions have paths that end in different names. -/
theorem getLast?_segments_path_ne {left right : Output} (apart : left.position ≠ right.position) :
    (left.path directory enqueue kernelName).segments.getLast? ≠
      (right.path directory enqueue kernelName).segments.getLast? := by
  obtain ⟨front, last_eq⟩ := Naming.exists_last_of_outputName enqueue kernelName
  intro same
  rw [getLast?_segments_path, getLast?_segments_path, fileName, fileName, last_eq, last_eq] at same
  have texts := congrArg String.toList (PathSegment.name.inj (Option.some.inj same))
  rw [String.toList_ofList, String.toList_ofList, List.append_cancel_left_eq] at texts
  exact apart (Naming.position_of_outputEnding texts)

/-- Outputs at other positions do not touch the file of one. -/
theorem holds_after_writeEach {output : Output}
    (holds : before.Holds (output.path directory enqueue kernelName) output.bytes)
    (elsewhere : ∀ other ∈ outputs, output.position ≠ other.position)
    (wrote : writeEach directory enqueue kernelName before outputs = (.ok paths, after)) :
    after.Holds (output.path directory enqueue kernelName) output.bytes := by
  induction outputs generalizing before paths with
  | nil =>
      cases wrote
      exact holds
  | cons other rest induction =>
      obtain ⟨middle, later, stepped, remaining⟩ := writeEach_cons_ok wrote
      rw [List.forall_mem_cons] at elsewhere
      exact induction (holds.writeFile_other stepped (getLast?_segments_path_ne elsewhere.1))
        elsewhere.2 remaining

/-- Each of the outputs that were written is held by its path. -/
theorem holds_of_writeEach (apart : (outputs.map (·.position)).Nodup)
    (wrote : writeEach directory enqueue kernelName before outputs = (.ok paths, after)) :
    ∀ output ∈ outputs, after.Holds (output.path directory enqueue kernelName) output.bytes := by
  induction outputs generalizing before paths with
  | nil => simp
  | cons output rest induction =>
      rw [List.map_cons, List.nodup_cons] at apart
      obtain ⟨middle, later, stepped, remaining⟩ := writeEach_cons_ok wrote
      rw [List.forall_mem_cons]
      refine ⟨?_, induction apart.2 remaining⟩
      exact holds_after_writeEach (FileTree.holds_of_writeFile stepped)
        (fun other other_mem same => apart.1 (same ▸ List.mem_map_of_mem other_mem)) remaining

/-- To write outputs that are held changes nothing. -/
theorem writeEach_of_holds
    (holds : ∀ output ∈ outputs,
      tree.Holds (output.path directory enqueue kernelName) output.bytes) :
    writeEach directory enqueue kernelName tree outputs =
      (.ok (outputs.map (path directory enqueue kernelName)), tree) := by
  induction outputs with
  | nil => rfl
  | cons output rest induction =>
      rw [List.forall_mem_cons] at holds
      rw [writeEach_cons, holds.1.writeFile_eq]
      dsimp only
      rw [induction holds.2, List.map_cons]

theorem writeAll_ok
    (wrote : writeAll directory enqueue kernelName outputs before = (.ok paths, after)) :
    ∃ made, before.ensureDirectories directory = (.ok (), made) ∧
      writeEach directory enqueue kernelName made outputs = (.ok paths, after) := by
  rw [writeAll] at wrote
  split at wrote
  · cases wrote
  · rename_i made ensured
    exact ⟨made, ensured, wrote⟩

/-- To write outputs again that were all written changes nothing. -/
theorem writeAll_again (apart : (outputs.map (·.position)).Nodup)
    (wrote : writeAll directory enqueue kernelName outputs before = (.ok paths, after)) :
    writeAll directory enqueue kernelName outputs after = (.ok paths, after) := by
  obtain ⟨made, ensured, wrote⟩ := writeAll_ok wrote
  have keeps := writeEach_keeps directory enqueue kernelName made outputs
  rw [wrote] at keeps
  rw [writeAll, FileTree.ensureDirectories_again ensured keeps]
  change writeEach directory enqueue kernelName after outputs = _
  rw [writeEach_of_holds (holds_of_writeEach apart wrote), paths_of_writeEach wrote]

/-- Outputs at different positions have different paths. -/
theorem nodup_paths (apart : (outputs.map (·.position)).Nodup) :
    (outputs.map (path directory enqueue kernelName)).Nodup := by
  rw [List.Nodup, List.pairwise_map] at apart ⊢
  refine apart.imp fun elsewhere same => ?_
  exact getLast?_segments_path_ne elsewhere (congrArg (fun path => path.segments.getLast?) same)

end Output

/-- Where the outputs of a replay are after they were written. -/
structure Replay.Placed (config : ReplayConfig) (outputs : List Output) (written : FileTree)
    (place : Output → Option Path) : Prop where
  /-- If outputs are written, each is held by its path. -/
  held : config.writeOutputs = true → ∀ output ∈ outputs,
    ∃ path, place output = some path ∧ written.Holds path output.bytes
  /-- Then no two have the same path. -/
  apart : config.writeOutputs = true → (outputs.map place).Nodup
  /-- If they are not, none has a path. -/
  absent : config.writeOutputs = false → ∀ output ∈ outputs, place output = none

theorem Replay.placed_of_write {config : ReplayConfig} {capture : Capture} {outputs : List Output}
    {tree written : FileTree} {paths : List (Option Path)}
    (apart : (outputs.map (·.position)).Nodup)
    (wrote : write config capture outputs tree = (.ok paths, written)) :
    ∃ place, paths = outputs.map place ∧ Placed config outputs written place := by
  rw [write] at wrote
  split at wrote
  · rename_i asked
    have writes := (Bool.and_eq_true_iff.mp asked).1
    split at wrote
    · rename_i wrote_all
      cases wrote
      obtain ⟨made, _, wrote_each⟩ := Output.writeAll_ok wrote_all
      have holds := Output.holds_of_writeEach apart wrote_each
      have paths_eq := Output.paths_of_writeEach wrote_each
      refine ⟨_, by rw [paths_eq, List.map_map], ?_, ?_, ?_⟩
      · exact fun _ output output_mem => ⟨_, rfl, holds output output_mem⟩
      · intro _
        rw [← List.map_map]
        exact (Output.nodup_paths apart).map (Option.some_injective Path)
      · intro unasked
        rw [writes] at unasked
        cases unasked
    · cases wrote
  · rename_i unasked
    cases wrote
    refine ⟨_, rfl, ?_, ?_, fun _ _ _ => rfl⟩
    all_goals
      intro writes
      have nothing : outputs = [] := by simpa [writes] using unasked
      simp [nothing]

end LaunchReplay
