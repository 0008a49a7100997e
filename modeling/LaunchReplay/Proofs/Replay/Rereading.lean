import LaunchReplay.Proofs.Capture.Read
import LaunchReplay.Proofs.FileTree.Confinement
import LaunchReplay.Proofs.Replay.Stages
import LaunchReplay.Proofs.Replay.Writing

/-!
# Outputs that are read again

What is found in the directory of outputs after a replay, wherever that directory is, are the
outputs of the replay, if no file there looked like an output of the enqueue before.
-/

namespace LaunchReplay

namespace Output

variable {before after : FileTree} {directory : Path} {enqueue : Enqueue} {kernelName : String}
  {outputs : List Output} {paths : List Path}

/-- The output at a position, if there is one. -/
def at? (outputs : List Output) (position : Nat) : Option Output :=
  outputs.find? fun output => output.position == position

/-- What a position with an output is to have among the files. -/
def kindAt? (outputs : List Output) (position : Nat) : Option OutputKind :=
  (at? outputs position).map (·.kind)

/-- The content of the output at a position. -/
def contentAt (outputs : List Output) (position : Nat) : Bytes :=
  ((at? outputs position).map (·.bytes)).getD []

theorem at?_eq_some_iff (apart : (outputs.map (·.position)).Nodup) {position : Nat}
    {output : Output} :
    at? outputs position = some output ↔ output ∈ outputs ∧ output.position = position := by
  constructor
  · intro found
    exact ⟨List.mem_of_find?_eq_some found, by simpa using List.find?_some found⟩
  · rintro ⟨output_mem, rfl⟩
    cases search : at? outputs output.position with
    | none =>
        have other := List.find?_eq_none.mp search output output_mem
        simp at other
    | some found =>
        have same : found.position = output.position := by simpa using List.find?_some search
        exact congrArg some
          (List.inj_on_of_nodup_map apart (List.mem_of_find?_eq_some search) output_mem same)

theorem matches_at (apart : (outputs.map (·.position)).Nodup) :
    Matches outputs (kindAt? outputs) (contentAt outputs) where
  kinds position kind := by
    simp only [kindAt?, Option.map_eq_some_iff, at?_eq_some_iff apart, and_assoc]
  contents output output_mem := by
    rw [contentAt, (at?_eq_some_iff apart).mpr ⟨output_mem, rfl⟩]
    rfl

theorem writeEach_keeps (directory : Path) (enqueue : Enqueue) (kernelName : String)
    (tree : FileTree) (outputs : List Output) :
    FileTree.Keeps tree (writeEach directory enqueue kernelName tree outputs).2 := by
  induction outputs generalizing tree with
  | nil => exact .refl tree
  | cons output rest induction =>
      rw [writeEach_cons]
      split
      · exact .refl tree
      · rename_i written wrote
        have all := (FileTree.writeFile_keeps wrote).trans (induction written)
        split
        · rename_i run
          rwa [run] at all
        · rename_i run
          rwa [run] at all

/-- Outputs that were all written into a directory, wherever it is, are what is stored there if
nothing there looked like an output before. -/
theorem stored_of_writeAll_of_vacant (formed : before.WellFormed) (nonempty : directory.text ≠ "")
    (plain : '/' ∉ kernelName.toList) (silent : ¬ Naming.EmbedsPosition kernelName)
    (words : ∀ output ∈ outputs, output.position < Text.word32)
    (apart : (outputs.map (·.position)).Nodup) (some_output : outputs ≠ [])
    (vacant : ∀ location kind, after.Reaches directory location →
      Artifact.Vacant before location (.test enqueue kind))
    (wrote : writeAll directory enqueue kernelName outputs before = (.ok paths, after)) :
    (∃ added, FileTree.Extends before after added) ∧
      Stored after directory (.test enqueue) (Naming.outputName enqueue kernelName)
        (kindAt? outputs) (contentAt outputs) := by
  have made_adds : FileTree.AddsDirectories _ before (before.ensureDirectories directory).2 :=
    FileTree.ensureDirectories_named directory
  rw [writeAll] at wrote
  split at wrote
  · cases wrote
  · rename_i made ensured
    rw [ensured] at made_adds
    have keeps : FileTree.Keeps made after := by
      have kept := writeEach_keeps directory enqueue kernelName made outputs
      rwa [wrote] at kept
    obtain ⟨output, rest, rfl⟩ := List.exists_cons_of_ne_nil some_output
    obtain ⟨_, _, stepped, _⟩ := writeEach_cons_ok wrote
    obtain ⟨child_accepted, location, reached⟩ :=
      FileTree.exists_reaches_of_writeFile (isName_fileName plain output) stepped
    have accepted :=
      Path.check_of_check_child (isName_fileName plain output) nonempty child_accepted
    have named : ∀ file ∈ made.namesAt location, Path.IsName file := fun file listed =>
      formed.isName_after made_adds listed
    have clear : ∀ kind, Artifact.names made directory (.test enqueue kind) = .ok [] := by
      intro kind
      refine Artifact.names_of_vacant reached accepted named fun file content held => ?_
      exact vacant location kind (keeps.reaches reached) file content
        (made_adds.entry?_of_file held)
    obtain ⟨grown, stored⟩ := stored_of_writeEach reached accepted named clear plain silent words
      apart (matches_at apart) wrote
    obtain ⟨added, made_grown, _⟩ := made_adds
    exact ⟨⟨_, made_grown.trans grown⟩, stored⟩

/-- What a set of digests holds at each position is the digest of the output there. -/
def Digests (outputs : List Output) (set : DigestSet) : Prop :=
  ∀ position, (set.get? position).map (·.digest) =
    (at? outputs position).map fun output => .ofContent output.bytes

theorem digests_of_stored {location : Path} {tree : FileTree}
    (stored : Stored tree location (.test enqueue) (Naming.outputName enqueue kernelName)
      (kindAt? outputs) (contentAt outputs)) :
    ∃ set, DigestSet.replayed tree location enqueue = .ok set ∧ Digests outputs set := by
  obtain ⟨set, scanned, answers⟩ := DigestSet.scan_ok_of_stored stored
  refine ⟨set, scanned, fun position => ?_⟩
  cases found : at? outputs position with
  | none =>
      have unset : set.get? position = none := by
        apply Option.eq_none_iff_forall_ne_some.mpr
        intro entry held
        obtain ⟨kind, of_kind, _⟩ := (answers position entry).mp held
        rw [kindAt?, found] at of_kind
        cases of_kind
      rw [unset]
      rfl
  | some output =>
      have of_kind : kindAt? outputs position = some output.kind := by
        rw [kindAt?, found]
        rfl
      rw [(answers position _).mpr ⟨output.kind, of_kind, rfl⟩, contentAt, found]
      rfl

/-- A directory where nothing looks like an output has no outputs, or it cannot be listed. -/
theorem digests_of_vacant {tree : FileTree} (formed : tree.WellFormed)
    (vacant : ∀ location kind, tree.Reaches directory location →
      Artifact.Vacant tree location (.test enqueue kind)) :
    (∃ set, DigestSet.replayed tree directory enqueue = .ok set ∧ Digests [] set) ∨
      ∃ reason, DigestSet.replayed tree directory enqueue =
        .error (.capture (.unreadable directory reason)) := by
  have stored (clear : ∀ kind, Artifact.names tree directory (.test enqueue kind) = .ok []) :
      Stored tree directory (.test enqueue) (Naming.outputName enqueue "") (kindAt? [])
        (contentAt []) :=
    ⟨fun kind => ⟨[], clear kind, List.nodup_nil, by simp [kindAt?, at?]⟩, nofun, nofun⟩
  cases listing : tree.list directory with
  | ok listed =>
      obtain ⟨accepted, location, reached, _⟩ := FileTree.list_ok listing
      exact .inl (digests_of_stored (stored fun kind => Artifact.names_of_vacant reached accepted
        (fun file file_listed => formed.isName file_listed) (vacant location kind reached)))
  | error reason =>
      by_cases missing : reason = .notFound
      · subst missing
        exact .inl (digests_of_stored (stored fun kind => by rw [Artifact.names, listing]))
      · have unread : Artifact.names tree directory (.test enqueue .buffer) =
            .error (.unreadable directory reason) := by
          rw [Artifact.names, listing]
          cases reason <;> first | rfl | exact absurd rfl missing
        refine .inr ⟨reason, ?_⟩
        rw [DigestSet.replayed, DigestSet.scan, List.foldlM_cons, DigestSet.addFiles, Artifact.scan,
          unread]
        rfl

theorem paths_of_writeEach
    (wrote : writeEach directory enqueue kernelName before outputs = (.ok paths, after)) :
    paths = outputs.map (path directory enqueue kernelName) := by
  induction outputs generalizing before paths with
  | nil =>
      cases wrote
      rfl
  | cons output rest induction =>
      rw [writeEach_cons] at wrote
      split at wrote
      · cases wrote
      · split at wrote
        · rename_i run
          cases wrote
          exact congrArg (output.path directory enqueue kernelName :: ·) (induction run)
        · cases wrote

end Output

/-! ## After a replay -/

/-- The digests of the outputs of a replay, by position. -/
def ReplaySummary.outputDigests (summary : ReplaySummary) : List (Nat × String) :=
  summary.outputs.map fun record => (record.position, record.digest.hex)

theorem DeviceReplay.digests_records {outputs : List Output} {paths : List (Option Path)}
    (lengths : paths.length = outputs.length) :
    (records outputs paths).map (fun record => (record.position, record.digest.hex)) =
      outputs.map fun output => (output.position, (Digest.ofContent output.bytes).hex) := by
  rw [records]
  induction outputs generalizing paths with
  | nil => simp
  | cons output rest induction =>
      obtain ⟨path, more, rfl⟩ := List.exists_cons_of_length_eq_add_one lengths
      simpa using induction (by simpa using lengths)

namespace Replay

variable {config : ReplayConfig} {capture : Capture} {tree written : FileTree} {root : Path}
  {outputs : List Output} {paths : List (Option Path)}

theorem length_of_write (wrote : write config capture outputs tree = (.ok paths, written)) :
    paths.length = outputs.length := by
  rw [write] at wrote
  split at wrote
  · split at wrote
    · rename_i run
      cases wrote
      rw [Output.writeAll] at run
      split at run
      · cases run
      · rw [Output.paths_of_writeEach run, List.length_map, List.length_map]
    · cases wrote
  · cases wrote
    rw [List.length_map]

/-- What is found after outputs were written, if nothing looked like an output before, are these
outputs, or the directory cannot be listed. -/
theorem digests_of_write (formed : tree.WellFormed) (writes : config.writeOutputs = true)
    (nonempty : (capture.root.join config.testDirectory).text ≠ "")
    (plain : '/' ∉ capture.launch.kernelName.toList)
    (silent : ¬ Naming.EmbedsPosition capture.launch.kernelName)
    (words : ∀ output ∈ outputs, output.position < Text.word32)
    (apart : (outputs.map (·.position)).Nodup)
    (vacant : ∀ location kind,
      written.Reaches (capture.root.join config.testDirectory) location →
        Artifact.Vacant tree location (.test capture.launch.enqueue kind))
    (wrote : write config capture outputs tree = (.ok paths, written)) :
    (∃ added, FileTree.Extends tree written added) ∧
      ((∃ set, DigestSet.replayed written (capture.root.join config.testDirectory)
          capture.launch.enqueue = .ok set ∧ Output.Digests outputs set) ∨
        ∃ reason, DigestSet.replayed written (capture.root.join config.testDirectory)
          capture.launch.enqueue =
            .error (.capture (.unreadable (capture.root.join config.testDirectory) reason))) := by
  cases outputs with
  | nil =>
      have unchanged : written = tree := by
        rw [write] at wrote
        simpa using (congrArg Prod.snd wrote).symm
      subst unchanged
      exact ⟨⟨[], .refl written⟩, Output.digests_of_vacant formed vacant⟩
  | cons output rest =>
      rw [write, writes] at wrote
      split at wrote
      · split at wrote
        · rename_i wrote_all
          cases wrote
          obtain ⟨grown, stored⟩ := Output.stored_of_writeAll_of_vacant formed nonempty plain silent
            words apart (List.cons_ne_nil _ _) vacant wrote_all
          exact ⟨grown, .inl (Output.digests_of_stored stored)⟩
        · cases wrote
      · rename_i unasked
        simp at unasked

variable {σ : Type} [Device σ] {device after : σ} {summary : ReplaySummary}

/-- After a replay, the enqueue is the one that it was, and what is found in the directory of
outputs are its outputs, if nothing there looked like an output before. -/
theorem digests_of_run (formed : tree.WellFormed) (writes : config.writeOutputs = true)
    (nonempty : (root.join config.testDirectory).text ≠ "")
    (replayed : run config root tree device = (.ok summary, written, after))
    (plain : '/' ∉ summary.kernelName.toList)
    (silent : ¬ Naming.EmbedsPosition summary.kernelName)
    (vacant : ∀ location kind, written.Reaches (root.join config.testDirectory) location →
      Artifact.Vacant tree location (.test summary.enqueue kind)) :
    Enqueue.read written root = .ok summary.enqueue ∧
      (summary.outputDigests.map (·.1)).Pairwise (· < ·) ∧
      ((∃ set, DigestSet.replayed written (root.join config.testDirectory) summary.enqueue =
          .ok set ∧ ∀ position digest, (position, digest) ∈ summary.outputDigests ↔
            (set.get? position).map (·.digest.hex) = some digest) ∨
        ∃ reason, DigestSet.replayed written (root.join config.testDirectory) summary.enqueue =
          .error (.capture (.unreadable (root.join config.testDirectory) reason))) := by
  obtain ⟨capture, read, replayed⟩ := run_ok replayed
  obtain ⟨work, performed, paths, wrote, rfl⟩ := perform_of_replay_ok replayed
  obtain ⟨rfl, enqueue_read, in_words⟩ := Capture.read_ok read
  have among := DeviceReplay.outputs_sublist performed
  have ascending := capture.arguments.positions_ascending.sublist among
  have words : ∀ output ∈ work.outputs, output.position < Text.word32 := by
    intro output output_mem
    have listed := among.subset (List.mem_map_of_mem output_mem)
    obtain ⟨argument, held⟩ := PositionMap.mem_positions_iff.mp listed
    exact in_words _ _ held
  have digests_eq : (work.summary capture.launch paths).outputDigests =
      work.outputs.map fun output => (output.position, (Digest.ofContent output.bytes).hex) :=
    DeviceReplay.digests_records (length_of_write wrote)
  have apart := ascending.imp Nat.ne_of_lt
  obtain ⟨⟨added, grown⟩, found⟩ :=
    digests_of_write formed writes nonempty plain silent words apart vacant wrote
  obtain ⟨text, text_read, decoded⟩ := Outcome.bind_ok.mp enqueue_read
  refine ⟨?_, ?_, found.imp_left ?_⟩
  · rw [Enqueue.read, text_of_extends grown (by decide) text_read]
    exact decoded
  · rw [digests_eq, List.map_map]
    exact ascending
  · rintro ⟨set, scanned, digests⟩
    refine ⟨set, scanned, fun position digest => ?_⟩
    have hex_eq : (set.get? position).map (·.digest.hex) =
        (Output.at? work.outputs position).map fun output =>
          (Digest.ofContent output.bytes).hex := by
      have same := congrArg (Option.map Digest.hex) (digests position)
      simpa [Function.comp_def] using same
    rw [hex_eq, digests_eq, Option.map_eq_some_iff, List.mem_map]
    simp only [Output.at?_eq_some_iff apart, Prod.mk.injEq, and_assoc]

end Replay

end LaunchReplay
