import LaunchReplay.Proofs.Capture.Artifact
import LaunchReplay.Proofs.Naming.Distinct
import LaunchReplay.Proofs.Validation.DigestSet
import LaunchReplay.Replay.Run

/-!
# Outputs that were written

Outputs are written under names of their own. Where no file had such a name before, each is added
to the tree and nothing else changes, so what is found afterwards is exactly one file for each
output.
-/

namespace LaunchReplay

namespace Output

variable {before after : FileTree} {directory : Path} {location : Location} {enqueue : Enqueue}
  {kernelName : String} {outputs : List Output}

/-- The name of the file to which an output is written. -/
def fileName (enqueue : Enqueue) (kernelName : String) (output : Output) : String :=
  Naming.outputName enqueue kernelName output.position output.kind

/-- The entry of a file tree to which an output is written in a directory. -/
def entry (location : Location) (enqueue : Enqueue) (kernelName : String) (output : Output) :
    Location × FileEntry :=
  (location ++ [output.fileName enqueue kernelName], .file output.bytes)

/-- The new locations are those of the files of the outputs. -/
theorem mem_entries_iff {file : String} :
    location ++ [file] ∈ (outputs.map (entry location enqueue kernelName)).map (·.1) ↔
      file ∈ outputs.map (fileName enqueue kernelName) := by
  simp [entry]

theorem isName_fileName (plain : '/' ∉ kernelName.toList) (output : Output) :
    Path.IsName (output.fileName enqueue kernelName) := by
  rw [fileName]
  exact Naming.isName_outputName plain

/-- Outputs at different positions are written to different files. -/
theorem nodup_fileNames (apart : (outputs.map (·.position)).Nodup) :
    (outputs.map (fileName enqueue kernelName)).Nodup := by
  rw [List.Nodup, List.pairwise_map] at apart ⊢
  exact apart.imp fun elsewhere same => elsewhere (Naming.eq_of_outputName_eq same).2.2.1

theorem writeEach_cons (output : Output) (rest : List Output) :
    writeEach directory enqueue kernelName before (output :: rest) =
      match before.writeFile (output.path directory enqueue kernelName) output.bytes with
      | .error reason =>
        (.error (.output (output.path directory enqueue kernelName) reason), before)
      | .ok written =>
        match writeEach directory enqueue kernelName written rest with
        | (.ok paths, final) => (.ok (output.path directory enqueue kernelName :: paths), final)
        | (.error error, final) => (.error error, final) := by
  unfold writeEach
  rewrite [writeTo]
  cases before.writeFile (output.path directory enqueue kernelName) output.bytes with
  | error reason => rfl
  | ok written => rfl

theorem writeEach_cons_ok {output : Output} {rest : List Output} {paths : List Path}
    (wrote : writeEach directory enqueue kernelName before (output :: rest) = (.ok paths, after)) :
    ∃ middle later,
      before.writeFile (output.path directory enqueue kernelName) output.bytes = .ok middle ∧
        writeEach directory enqueue kernelName middle rest = (.ok later, after) := by
  rw [writeEach_cons] at wrote
  split at wrote
  · cases wrote
  · rename_i middle stepped
    split at wrote
    · rename_i later final remaining
      cases wrote
      exact ⟨middle, later, stepped, remaining⟩
    · cases wrote

/-- Outputs that are all written, under distinct names that no file had, are all added and can be
read. -/
theorem writeEach_ok {paths : List Path} (reached : before.Reaches directory location)
    (plain : '/' ∉ kernelName.toList) (distinct : (outputs.map (fileName enqueue kernelName)).Nodup)
    (free : ∀ output ∈ outputs, before.isFile (output.path directory enqueue kernelName) = false)
    (wrote : writeEach directory enqueue kernelName before outputs = (.ok paths, after)) :
    FileTree.Extends before after (outputs.map (entry location enqueue kernelName)) ∧
      ∀ output ∈ outputs,
        after.readFile (output.path directory enqueue kernelName) = .ok output.bytes := by
  induction outputs generalizing before paths with
  | nil =>
      cases wrote
      exact ⟨.refl _, by simp⟩
  | cons output rest induction =>
      rw [List.map_cons, List.nodup_cons] at distinct
      obtain ⟨middle, later, stepped, remaining⟩ := writeEach_cons_ok wrote
      obtain ⟨grown, head_read⟩ := FileTree.writeFile_fresh_ok reached
        (isName_fileName plain output) (free output List.mem_cons_self) stepped
      have still_free : ∀ other ∈ rest,
          middle.isFile (other.path directory enqueue kernelName) = false := by
        intro other other_mem
        have unlike : other.fileName enqueue kernelName ∉
            [output].map (fileName enqueue kernelName) := by
          intro same
          exact distinct.1 (List.mem_map.mpr ⟨other, other_mem, by simpa using same⟩)
        have kept := grown.isFile_child_eq reached (isName_fileName plain other)
          (mem_entries_iff.not.mpr unlike)
        exact kept.trans (free other (List.mem_cons_of_mem _ other_mem))
      obtain ⟨more, rest_read⟩ :=
        induction (grown.reaches reached) distinct.2 still_free remaining
      refine ⟨grown.trans more, fun other other_mem => ?_⟩
      rcases List.mem_cons.mp other_mem with rfl | other_mem
      · have kept := more.readFile_child_eq (grown.reaches reached) (isName_fileName plain other)
          (mem_entries_iff.not.mpr distinct.1)
        exact kept.trans head_read
      · exact rest_read other other_mem

/-- Whether some outputs are those of the given kinds with the given contents. -/
structure Matches (outputs : List Output) (kind? : Nat → Option OutputKind)
    (content : Nat → Bytes) : Prop where
  /-- There is one for each position with a kind, and no other. -/
  kinds : ∀ position kind, kind? position = some kind ↔
    ∃ output ∈ outputs, output.position = position ∧ output.kind = kind
  /-- Each has the content of its position. -/
  contents : ∀ output ∈ outputs, output.bytes = content output.position

variable {kind? : Nat → Option OutputKind} {content : Nat → Bytes}

section

variable {paths : List Path} (reached : before.Reaches directory location)
  (accepted : directory.check = .ok ())
  (named : ∀ file ∈ before.namesAt location, Path.IsName file)
  (clear : ∀ kind, Artifact.names before directory (.test enqueue kind) = .ok [])
  (plain : '/' ∉ kernelName.toList)

include reached accepted clear plain

theorem isFile_of_clear (output : Output) :
    before.isFile (output.path directory enqueue kernelName) = false := by
  apply Bool.eq_false_iff.mpr
  intro present
  have fitting : (FilePattern.test enqueue output.kind).fits
      (output.fileName enqueue kernelName) = true :=
    FilePattern.fits_test_outputName.mpr rfl
  have found := Artifact.mem_names_of_isFile reached accepted (clear output.kind)
    (isName_fileName plain output) present fitting
  cases found

include named

/-- The files that are found after outputs were added, where none were before, are theirs. -/
theorem mem_names_after_iff {kind : OutputKind} {found : List String} {file : String}
    (grown : FileTree.Extends before after (outputs.map (entry location enqueue kernelName)))
    (reads : ∀ output ∈ outputs,
      after.readFile (output.path directory enqueue kernelName) = .ok output.bytes)
    (listed : Artifact.names after directory (.test enqueue kind) = .ok found) :
    file ∈ found ↔
      ∃ output ∈ outputs, output.kind = kind ∧ output.fileName enqueue kernelName = file := by
  constructor
  · intro file_mem
    obtain ⟨within, present, fitting⟩ :=
      (Artifact.mem_names_iff (grown.reaches reached) accepted listed).mp file_mem
    by_cases new : file ∈ outputs.map (fileName enqueue kernelName)
    · obtain ⟨output, output_mem, rfl⟩ := List.mem_map.mp new
      exact ⟨output, output_mem, (FilePattern.fits_test_outputName.mp fitting).symm, rfl⟩
    · -- A file that is not new would have been found before.
      have elsewhere : location ++ [file] ∉ _ := mem_entries_iff.not.mpr new
      have old : file ∈ before.namesAt location := by
        rw [FileTree.mem_namesAt_iff, grown.entry?_eq elsewhere] at within
        exact FileTree.mem_namesAt_iff.mpr within
      rw [grown.isFile_child_eq reached (named file old) elsewhere] at present
      have found_before := (Artifact.mem_names_iff reached accepted (clear kind)).mpr
        ⟨old, present, fitting⟩
      cases found_before
  · rintro ⟨output, output_mem, rfl, rfl⟩
    exact Artifact.mem_names_of_isFile (grown.reaches reached) accepted listed
      (isName_fileName plain output) (FileTree.isFile_iff.mpr ⟨_, reads output output_mem⟩)
      (FilePattern.fits_test_outputName.mpr rfl)

/-- After outputs were written into a directory without replayed outputs of the enqueue, they are
what is stored there. -/
theorem stored_of_writeEach (silent : ¬ Naming.EmbedsPosition kernelName)
    (words : ∀ output ∈ outputs, output.position < Text.word32)
    (apart : (outputs.map (·.position)).Nodup) (alike : Matches outputs kind? content)
    (wrote : writeEach directory enqueue kernelName before outputs = (.ok paths, after)) :
    FileTree.Extends before after (outputs.map (entry location enqueue kernelName)) ∧
      Stored after directory (.test enqueue) (Naming.outputName enqueue kernelName) kind?
        content := by
  obtain ⟨grown, reads⟩ := writeEach_ok reached plain (nodup_fileNames apart)
    (fun output _ => isFile_of_clear reached accepted clear plain output) wrote
  refine ⟨grown, ?_, ?_, ?_⟩
  · intro kind
    have listed : Artifact.names after directory (.test enqueue kind) = _ :=
      Artifact.names_of_reaches (grown.reaches reached) accepted
    refine ⟨_, listed, Artifact.nodup_of_names listed, fun file => ?_⟩
    rw [mem_names_after_iff reached accepted named clear plain grown reads listed]
    constructor
    · rintro ⟨output, output_mem, rfl, rfl⟩
      exact ⟨output.position, (alike.kinds _ _).mpr ⟨output, output_mem, rfl, rfl⟩, rfl⟩
    · rintro ⟨position, of_kind, rfl⟩
      obtain ⟨output, output_mem, rfl, rfl⟩ := (alike.kinds _ _).mp of_kind
      exact ⟨output, output_mem, rfl, rfl⟩
  · intro position kind of_kind
    obtain ⟨output, output_mem, rfl, _⟩ := (alike.kinds _ _).mp of_kind
    exact Naming.position?_outputName kind silent (words output output_mem)
  · intro position kind of_kind
    obtain ⟨output, output_mem, rfl, rfl⟩ := (alike.kinds _ _).mp of_kind
    rw [← alike.contents output output_mem]
    exact reads output output_mem

end

end Output

/-! ## The directory of outputs -/

namespace Output

variable {before after : FileTree} {root : Path} {base : Location} {name : String}
  {enqueue : Enqueue} {kernelName : String} {outputs : List Output} {paths : List Path}
  {kind? : Nat → Option OutputKind} {content : Nat → Bytes}

/-- Outputs that were written into a directory, which was made if it was missing, are what is stored
there, and nothing is new outside of it. -/
theorem stored_of_writeAll (formed : before.WellFormed) (reached : before.Reaches root base)
    (name_named : Path.IsName name) (accepted : (root.child name).check = .ok ())
    (fits : name.utf8ByteSize ≤ Path.nameLimit)
    (clear : ∀ kind, Artifact.names before (root.child name) (.test enqueue kind) = .ok [])
    (plain : '/' ∉ kernelName.toList) (silent : ¬ Naming.EmbedsPosition kernelName)
    (words : ∀ output ∈ outputs, output.position < Text.word32)
    (apart : (outputs.map (·.position)).Nodup) (alike : Matches outputs kind? content)
    (wrote : writeAll (root.child name) enqueue kernelName outputs before = (.ok paths, after)) :
    ∃ added, FileTree.Extends before after added ∧
      (∀ entry ∈ added, base ++ [name] <+: entry.1) ∧
        Stored after (root.child name) (.test enqueue) (Naming.outputName enqueue kernelName) kind?
          content := by
  rw [writeAll] at wrote
  split at wrote
  · cases wrote
  · rename_i made ensured
    obtain ⟨new, made_grown, at_directory, inner, untouched⟩ :=
      FileTree.ensureDirectories_child_grows formed reached name_named accepted fits ensured
    have named : ∀ file ∈ made.namesAt (base ++ [name]), Path.IsName file := by
      rcases untouched with rfl | empty
      · exact fun file listed => formed.isName listed
      · simp [empty]
    have still_clear : ∀ kind,
        Artifact.names made (root.child name) (.test enqueue kind) = .ok [] := by
      rcases untouched with rfl | empty
      · exact clear
      · intro kind
        rw [Artifact.names_of_reaches inner accepted, empty, List.filter_nil,
          (Artifact.perm_discoveryOrder []).eq_nil]
    obtain ⟨grown, stored⟩ := stored_of_writeEach inner accepted named still_clear plain silent
      words apart alike wrote
    refine ⟨_, made_grown.trans grown, fun entry entry_mem => ?_, stored⟩
    rcases List.mem_append.mp entry_mem with directory | file
    · exact (at_directory entry directory) ▸ List.prefix_refl _
    · obtain ⟨output, _, rfl⟩ := List.mem_map.mp file
      exact List.prefix_append _ _

end Output

/-- What a replay stored in the directory of outputs, also if there were none to write. -/
theorem Replay.stored_of_write {before after : FileTree} {capture : Capture} {base : Location}
    {outputs : List Output} {paths : List (Option Path)} {kind? : Nat → Option OutputKind}
    {content : Nat → Bytes} (formed : before.WellFormed)
    (reached : before.Reaches capture.root base)
    (accepted : (capture.root.child Naming.testDirectory).check = .ok ())
    (clear : ∀ kind, Artifact.names before (capture.root.child Naming.testDirectory)
      (.test capture.launch.enqueue kind) = .ok [])
    (plain : '/' ∉ capture.launch.kernelName.toList)
    (silent : ¬ Naming.EmbedsPosition capture.launch.kernelName)
    (words : ∀ output ∈ outputs, output.position < Text.word32)
    (apart : (outputs.map (·.position)).Nodup) (alike : Output.Matches outputs kind? content)
    (wrote : write {} capture outputs before = (.ok paths, after)) :
    ∃ added, FileTree.Extends before after added ∧
      (∀ entry ∈ added, base ++ [Naming.testDirectory] <+: entry.1) ∧
        Stored after (capture.root.child Naming.testDirectory) (.test capture.launch.enqueue)
          (Naming.outputName capture.launch.enqueue capture.launch.kernelName) kind? content := by
  cases outputs with
  | nil =>
      cases wrote
      have none_of (position : Nat) (kind : OutputKind) : kind? position ≠ some kind := by
        intro of_kind
        obtain ⟨_, nowhere, _⟩ := (alike.kinds position kind).mp of_kind
        cases nowhere
      refine ⟨[], .refl before, by simp, fun kind => ⟨[], clear kind, List.nodup_nil, ?_⟩, ?_, ?_⟩
      · simp [none_of]
      · exact fun position kind of_kind => absurd of_kind (none_of position kind)
      · exact fun position kind of_kind => absurd of_kind (none_of position kind)
  | cons output rest =>
      rw [write] at wrote
      split at wrote
      · split at wrote
        · rename_i written final written_all
          cases wrote
          exact Output.stored_of_writeAll formed reached (by decide) accepted (by decide) clear
            plain silent words apart alike written_all
        · cases wrote
      · rename_i unasked
        simp at unasked

/-! ## Outputs that cannot be written -/

section

variable {before after : FileTree} {directory : Path} {enqueue : Enqueue} {kernelName : String}
  {outputs : List Output} {error : ReplayError}

/-- If outputs cannot all be written, then those before the first that cannot be were. -/
theorem Output.exists_stuck_of_error
    (failed : writeEach directory enqueue kernelName before outputs = (.error error, after)) :
    ∃ written stuck unwritten paths reason, outputs = written ++ stuck :: unwritten ∧
      writeEach directory enqueue kernelName before written = (.ok paths, after) ∧
      error = .output (stuck.path directory enqueue kernelName) reason := by
  induction outputs generalizing before with
  | nil => cases failed
  | cons output rest induction =>
      rw [writeEach_cons] at failed
      split at failed
      · cases failed
        exact ⟨[], output, rest, [], _, rfl, rfl, rfl⟩
      · rename_i middle wrote
        split at failed
        · cases failed
        · rename_i run
          cases failed
          obtain ⟨written, stuck, unwritten, paths, reason, rfl, wrote_rest, same⟩ := induction run
          refine ⟨output :: written, stuck, unwritten,
            output.path directory enqueue kernelName :: paths, reason, rfl, ?_, same⟩
          rw [writeEach_cons, wrote]
          dsimp only
          rw [wrote_rest]

theorem Output.writeEach_error
    (failed : writeEach directory enqueue kernelName before outputs = (.error error, after)) :
    ∃ path reason, error = .output path reason := by
  obtain ⟨_, _, _, _, reason, _, _, rfl⟩ := exists_stuck_of_error failed
  exact ⟨_, reason, rfl⟩

theorem Output.writeAll_error
    (failed : writeAll directory enqueue kernelName outputs before = (.error error, after)) :
    ∃ path reason, error = .output path reason := by
  rw [writeAll] at failed
  split at failed
  · cases failed
    exact ⟨_, _, rfl⟩
  · exact writeEach_error failed

/-- Writing is tried, and fails, only if there is something to write. -/
theorem Replay.writeAll_of_write {config : ReplayConfig} {capture : Capture}
    (failed : write config capture outputs before = (.error error, after)) :
    outputs ≠ [] ∧ Output.writeAll (capture.root.join config.testDirectory) capture.launch.enqueue
      capture.launch.kernelName outputs before = (.error error, after) := by
  rw [write] at failed
  split at failed
  · rename_i asked
    split at failed
    · cases failed
    · rename_i run
      cases failed
      exact ⟨by simpa using (Bool.and_eq_true_iff.mp asked).2, run⟩
  · cases failed

theorem Replay.write_error {config : ReplayConfig} {capture : Capture}
    (failed : write config capture outputs before = (.error error, after)) :
    ∃ path reason, error = .output path reason :=
  Output.writeAll_error (writeAll_of_write failed).2

end

end LaunchReplay
