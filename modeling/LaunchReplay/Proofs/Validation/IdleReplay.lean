import LaunchReplay.Proofs.Capture.Read
import LaunchReplay.Proofs.Replay.Idle
import LaunchReplay.Proofs.Validation.Compare
import Mathlib.Tactic.Choose

/-!
# Validation after a replay that did nothing

A kernel without an effect leaves all outputs as they were before the launch. A comparison of what
such a replay wrote with what was captured after the launch decides, position by position, whether
the captured launch changed the output.
-/

namespace LaunchReplay

variable {κ : Type} {tree written : FileTree} {root : Path} {base : Location}
  {added : List (Location × FileEntry)}

/-! ## Files beside the outputs -/

section

variable (grown : FileTree.Extends tree written added) (reached : tree.Reaches root base)
  (below : ∀ entry ∈ added, base ++ [Naming.testDirectory] <+: entry.1)

include grown reached below

/-- Files beside the directory of outputs are read as they were before there were any. -/
theorem text_eq_of_below {name : String} (named : Path.IsName name)
    (beside : name ≠ Naming.testDirectory) :
    Artifact.text written (root.child name) = Artifact.text tree (root.child name) := by
  have outside : ∀ entry ∈ added, ¬ base ++ [name] <+: entry.1 := fun entry entry_mem =>
    FileTree.not_prefix_of_ne beside (below entry entry_mem)
  have old : base ++ [name] ∉ added.map (·.1) :=
    FileTree.notMem_of_outside outside (List.prefix_refl _)
  rw [Artifact.text, Artifact.text, grown.readText_child_eq reached named old]

theorem enqueue_eq_of_below : Enqueue.read written root = Enqueue.read tree root := by
  rw [Enqueue.read, Enqueue.read, text_eq_of_below grown reached below (by decide) (by decide)]

theorem types_eq_of_below :
    ArgumentTypes.read written (root.child Naming.argumentTypesFile) =
      ArgumentTypes.read tree (root.child Naming.argumentTypesFile) := by
  rw [ArgumentTypes.read, ArgumentTypes.read,
    text_eq_of_below grown reached below (by decide) (by decide)]

end

/-! ## Captured outputs -/

namespace Capture

/-- The file with the content of an output after the captured launch. -/
def postFile (capture : Capture) (position : Nat) (kind : OutputKind) : Path :=
  (capture.root.child Naming.postDirectory).child
    (Naming.postName capture.launch.enqueue capture.launch.kernelName position kind)

/-- Whether the outputs of a capture can be compared one by one with those of a replay. -/
structure Comparable (capture : Capture) (tree : FileTree) : Prop where
  /-- The name of the kernel can be part of the name of a file. -/
  plain : '/' ∉ capture.launch.kernelName.toList
  /-- It does not look like the position of an output. -/
  silent : ¬ Naming.EmbedsPosition capture.launch.kernelName
  /-- No replayed outputs of the enqueue are there yet. -/
  clear : ∀ kind, Artifact.names tree (capture.root.child Naming.testDirectory)
    (.test capture.launch.enqueue kind) = .ok []
  /-- Of the captured files of the enqueue there is exactly one for each output. -/
  single : ∀ kind, ∃ found,
    Artifact.names tree (capture.root.child Naming.postDirectory)
      (.post capture.launch.enqueue kind) = .ok found ∧
    ∀ file, file ∈ found ↔ ∃ position, capture.arguments.outputKind? position = some kind ∧
      Naming.postName capture.launch.enqueue capture.launch.kernelName position kind = file
  /-- The data types of the arguments can be read, if there are any. -/
  typed : ∃ types,
    ArgumentTypes.read tree (capture.root.child Naming.argumentTypesFile) = .ok types

theorem position_lt {capture : Capture} {position : Nat} {kind : OutputKind}
    (words : Artifact.InWords capture.arguments)
    (of_kind : capture.arguments.outputKind? position = some kind) : position < Text.word32 := by
  obtain ⟨argument, held, _⟩ := Option.bind_eq_some_iff.mp of_kind
  exact words position argument held

/-- The captured outputs are stored under the names of their positions. -/
theorem Comparable.exists_stored {capture : Capture} (comparable : capture.Comparable tree)
    (words : Artifact.InWords capture.arguments) :
    ∃ theirs, Stored tree (capture.root.child Naming.postDirectory)
      (.post capture.launch.enqueue)
      (Naming.postName capture.launch.enqueue capture.launch.kernelName)
      capture.arguments.outputKind? theirs := by
  have readable : ∀ position, ∃ bytes, ∀ kind,
      capture.arguments.outputKind? position = some kind →
        tree.readFile (capture.postFile position kind) = .ok bytes := by
    intro position
    cases some_kind : capture.arguments.outputKind? position with
    | none => exact ⟨[], fun kind of_kind => by cases of_kind⟩
    | some kind =>
        obtain ⟨found, listed, files⟩ := comparable.single kind
        have file_mem := (files _).mpr ⟨position, some_kind, rfl⟩
        obtain ⟨bytes, read⟩ :=
          FileTree.isFile_iff.mp (Artifact.isFile_of_mem_names listed file_mem)
        refine ⟨bytes, fun other of_other => ?_⟩
        obtain rfl := Option.some.inj of_other
        exact read
  choose theirs held using readable
  refine ⟨theirs, fun kind => ?_, fun position kind of_kind => ?_, fun position kind => ?_⟩
  · obtain ⟨found, listed, files⟩ := comparable.single kind
    exact ⟨found, listed, Artifact.nodup_of_names listed, files⟩
  · exact Naming.position?_postName kind comparable.silent (position_lt words of_kind)
  · exact held position kind

end Capture

/-! ## The comparison -/

namespace Validation

/-- Whether a report decides, for each output of a capture, if the captured launch changed it. -/
structure DecidesUnchanged (capture : Capture) (tree : FileTree) (report : ValidationReport) :
    Prop where
  /-- No position is checked twice or out of order. -/
  ascending : (report.checks.map (·.position)).Pairwise (· < ·)
  /-- The positions are exactly those of the outputs. -/
  positions : report.checks.map (·.position) = capture.outputPositions
  /-- A check is equal exactly if the captured file is the content before the launch. -/
  checks : ∀ check ∈ report.checks, ∀ kind,
    capture.arguments.outputKind? check.position = some kind →
      (check.equal = true ↔ tree.readFile (capture.postFile check.position kind) =
        .ok (ArgumentTable.preState capture.arguments check.position))
  /-- All outputs are equal exactly if all captured files are the contents before the launch. -/
  verdict : report.verdict = .allEqual ↔ ∀ position kind,
    capture.arguments.outputKind? position = some kind →
      tree.readFile (capture.postFile position kind) =
        .ok (ArgumentTable.preState capture.arguments position)

/-- Whether no captured file has the digest of the content before the launch but is another. -/
def CollisionFree (capture : Capture) (tree : FileTree) : Prop :=
  ∀ position kind content, capture.arguments.outputKind? position = some kind →
    tree.readFile (capture.postFile position kind) = .ok content →
      Digest.ofContent content =
          Digest.ofContent (ArgumentTable.preState capture.arguments position) →
        content = ArgumentTable.preState capture.arguments position

/-- A report on the contents before the launch and those of the captured files decides which outputs
the captured launch changed, unless two contents that differ have one digest. -/
theorem decidesUnchanged_of_compares {capture : Capture} {theirs : Nat → Bytes}
    {report : ValidationReport}
    (compares : Compares capture.arguments.outputKind? (ArgumentTable.preState capture.arguments)
      theirs report)
    (held : ∀ position kind, capture.arguments.outputKind? position = some kind →
      tree.readFile (capture.postFile position kind) = .ok (theirs position))
    (collision_free : CollisionFree capture tree) : DecidesUnchanged capture tree report := by
  have checked : ∀ check ∈ report.checks, ∀ kind,
      capture.arguments.outputKind? check.position = some kind →
        (check.equal = true ↔ tree.readFile (capture.postFile check.position kind) =
          .ok (ArgumentTable.preState capture.arguments check.position)) := by
    intro check check_mem kind of_kind
    have theirs_held := held check.position kind of_kind
    rw [compares.equal check check_mem]
    constructor
    · intro same
      rw [theirs_held, collision_free check.position kind _ of_kind theirs_held same.symm]
    · intro unchanged
      rw [Except.ok.inj (theirs_held.symm.trans unchanged)]
  refine ⟨compares.ascending, ?_, checked, ?_⟩
  · have irreflexive : Std.Irrefl fun left right : Nat => left < right := ⟨Nat.lt_irrefl⟩
    apply compares.ascending.eq_of_mem_iff (ArgumentTable.outputPositions_ascending _)
    intro position
    rw [compares.positions, ArgumentTable.mem_outputPositions_iff]
  · rw [compares.verdict]
    constructor
    · intro all_equal position kind of_kind
      obtain ⟨check, check_mem, rfl⟩ :=
        List.mem_map.mp ((compares.positions position).mpr (by rw [of_kind]; rfl))
      exact (checked check check_mem kind of_kind).mp (all_equal check check_mem)
    · intro unchanged check check_mem
      have some_kind := (compares.positions check.position).mp (List.mem_map_of_mem check_mem)
      obtain ⟨kind, of_kind⟩ := Option.isSome_iff_exists.mp some_kind
      exact (checked check check_mem kind of_kind).mpr (unchanged check.position kind of_kind)

/-- After a replay on a device without a host kernel for the captured entry point, a comparison
succeeds and decides which outputs the captured launch left as they were, as long as no digest is
that of two contents which are compared. -/
theorem run_after_idle_replay {capture : Capture} {device after : Simulator κ}
    {summary : ReplaySummary} (formed : tree.WellFormed)
    (read : Capture.read tree root {} = .ok capture) (comparable : capture.Comparable tree)
    (agrees : capture.arguments.Agrees)
    (idle : device.setup.hostKernel? capture.launch.kernelName = none)
    (collision_free : CollisionFree capture tree)
    (replayed : Replay.run {} root tree device = (.ok summary, written, after)) :
    ∃ report, run {} root written = .ok report ∧ DecidesUnchanged capture tree report := by
  obtain ⟨other, other_read, replayed_capture⟩ := Replay.run_ok replayed
  obtain rfl : capture = other := Except.ok.inj (read.symm.trans other_read)
  obtain ⟨rfl, enqueue_read, words⟩ := Capture.read_ok read
  obtain ⟨work, performed, paths, wrote, _⟩ := Replay.perform_of_replay_ok replayed_capture
  obtain ⟨ascending, alike⟩ := DeviceReplay.outputs_of_idle idle agrees performed
  obtain ⟨text, text_read, _⟩ := Outcome.bind_ok.mp enqueue_read
  obtain ⟨base, reached, accepted⟩ := exists_reaches_of_text (by decide) text_read
  have test_accepted : (capture.root.child Naming.testDirectory).check = .ok () :=
    Path.check_child_of_le (by decide) (by decide) (by decide) (by decide) accepted
  have post_accepted : (capture.root.child Naming.postDirectory).check = .ok () :=
    Path.check_child_of_le (by decide) (by decide) (by decide) (by decide) accepted
  have output_words : ∀ output ∈ work.outputs, output.position < Text.word32 := fun output inside =>
    Capture.position_lt words ((alike.kinds _ _).mpr ⟨output, inside, rfl, rfl⟩)
  obtain ⟨added, grown, below, stored⟩ := Replay.stored_of_write formed reached test_accepted
    comparable.clear comparable.plain comparable.silent output_words
    (ascending.imp Nat.ne_of_lt) alike wrote
  obtain ⟨theirs, captured⟩ := comparable.exists_stored words
  have still_captured := captured.of_grown grown formed reached (by decide) post_accepted
    (by decide) (fun _ _ _ => Naming.isName_postName comparable.plain)
    fun entry entry_mem => FileTree.not_prefix_of_ne (by decide) (below entry entry_mem)
  obtain ⟨types, typed⟩ := comparable.typed
  rw [← types_eq_of_below grown reached below] at typed
  obtain ⟨report, compared, compares⟩ : ∃ report,
      compare {} capture.root written capture.launch.enqueue = .ok report ∧ Compares _ _ _ report :=
    compare_of_stored stored still_captured typed
  refine ⟨report, ?_, decidesUnchanged_of_compares compares captured.held collision_free⟩
  rw [run, enqueue_eq_of_below grown reached below, enqueue_read]
  exact compared

/-- A capture directory of a buffer and an image, of which the launch changed the image. -/
def halfChanged : FileTree where
  entries :=
    [(["cap"], .directory),
      (["cap", "enqueueNumber.txt"], .file (Bytes.ofText "1")),
      (["cap", "knlName.txt"], .file (Bytes.ofText "f")),
      (["cap", "buildOptions.txt"], .file []),
      (["cap", "worksizes.txt"], .file (Bytes.ofText "8\n0\n0")),
      (["cap", "kernel.cl"], .file (Bytes.ofText "f")),
      (["cap", "Image_MetaData_1.txt"],
        .file (Bytes.ofText "1\n0\n0\n0\n0\n0\n0x10B0\n0x10D2\n0x10F4")),
      (["cap", "Pre"], .directory),
      (["cap", "Pre", "Enqueue_0001_Kernel_f_Arg_0_Buffer.bin"], .file [1, 2]),
      (["cap", "Pre", "Enqueue_0001_Kernel_f_Arg_1_Image.raw"], .file [4]),
      (["cap", "Post"], .directory),
      (["cap", "Post", "Enqueue_0001_Kernel_f_Arg_0.bin"], .file [1, 2]),
      (["cap", "Post", "Enqueue_0001_Kernel_f_Arg_1.raw"], .file [5])]
  unique := by decide
  workingDirectory := []

/-- What is read from that directory. -/
def halfChangedCapture : Capture where
  root := ⟨"cap"⟩
  launch := ⟨⟨1⟩, "f", [], ⟨[8], [0], [0]⟩⟩
  arguments :=
    .ofList [(0, .buffer none [1, 2]), (1, .image ⟨.image1D, ⟨0x10B0, 0x10D2⟩, .line 1⟩ [4])]
  program := .source "f"
  svmActive := false
  notices := []

theorem halfChanged_get?_iff {position : Nat} {argument : Argument} :
    halfChangedCapture.arguments.get? position = some argument ↔
      (position = 0 ∧ argument = .buffer none [1, 2]) ∨
        (position = 1 ∧ argument = .image ⟨.image1D, ⟨0x10B0, 0x10D2⟩, .line 1⟩ [4]) := by
  have entries_eq : halfChangedCapture.arguments.entries =
      [(0, .buffer none [1, 2]), (1, .image ⟨.image1D, ⟨0x10B0, 0x10D2⟩, .line 1⟩ [4])] := rfl
  rw [PositionMap.get?_eq_some_iff, entries_eq]
  simp

theorem halfChanged_outputKind?_iff {position : Nat} {kind : OutputKind} :
    halfChangedCapture.arguments.outputKind? position = some kind ↔
      (position = 0 ∧ kind = .buffer) ∨ (position = 1 ∧ kind = .image) := by
  simp only [ArgumentTable.outputKind?, Option.bind_eq_some_iff, halfChanged_get?_iff]
  constructor
  · rintro ⟨argument, ⟨rfl, rfl⟩ | ⟨rfl, rfl⟩, of_kind⟩ <;> cases of_kind <;> simp
  · rintro (⟨rfl, rfl⟩ | ⟨rfl, rfl⟩)
    · exact ⟨_, .inl ⟨rfl, rfl⟩, rfl⟩
    · exact ⟨_, .inr ⟨rfl, rfl⟩, rfl⟩

theorem halfChanged_comparable : halfChangedCapture.Comparable halfChanged where
  plain := by decide
  silent := by
    rintro ⟨before, digit, rest, shape, _⟩
    have lengths := congrArg List.length shape
    simp [halfChangedCapture, Naming.positionMarker_eq] at lengths
    omega
  clear kind := by cases kind <;> decide +kernel
  single kind := by
    cases kind with
    | buffer =>
        refine ⟨["Enqueue_0001_Kernel_f_Arg_0.bin"], by decide +kernel, fun file => ?_⟩
        have name_eq : Naming.postName halfChangedCapture.launch.enqueue
            halfChangedCapture.launch.kernelName 0 .buffer = "Enqueue_0001_Kernel_f_Arg_0.bin" := by
          decide
        rw [List.mem_singleton, eq_comm]
        simp [halfChanged_outputKind?_iff, name_eq]
    | image =>
        refine ⟨["Enqueue_0001_Kernel_f_Arg_1.raw"], by decide +kernel, fun file => ?_⟩
        have name_eq : Naming.postName halfChangedCapture.launch.enqueue
            halfChangedCapture.launch.kernelName 1 .image = "Enqueue_0001_Kernel_f_Arg_1.raw" := by
          decide
        rw [List.mem_singleton, eq_comm]
        simp [halfChanged_outputKind?_iff, name_eq]
  typed := ⟨none, by decide +kernel⟩

theorem halfChanged_agrees : halfChangedCapture.arguments.Agrees := by
  rintro position other ⟨argument, otherArgument, held, _, alike⟩
  rcases halfChanged_get?_iff.mp held with ⟨_, rfl⟩ | ⟨_, rfl⟩ <;> cases alike

theorem halfChanged_collisionFree : CollisionFree halfChangedCapture halfChanged := by
  intro position kind content of_kind held same
  rcases halfChanged_outputKind?_iff.mp of_kind with ⟨rfl, rfl⟩ | ⟨rfl, rfl⟩
  · have kept : halfChanged.readFile (halfChangedCapture.postFile 0 .buffer) = .ok [1, 2] := by
      decide +kernel
    exact Except.ok.inj (held.symm.trans kept)
  · have changed : halfChanged.readFile (halfChangedCapture.postFile 1 .image) = .ok [5] := by
      decide +kernel
    obtain rfl := Except.ok.inj (held.symm.trans changed)
    have apart : Digest.ofContent [5] ≠ Digest.ofContent [4] := by decide +kernel
    exact absurd same apart

theorem halfChanged_after_idle_replay :
    ∃ summary written after report,
      Replay.run {} ⟨"cap"⟩ halfChanged (Simulator.new .plain ()) = (.ok summary, written, after) ∧
        run {} ⟨"cap"⟩ written = .ok report ∧
          DecidesUnchanged halfChangedCapture halfChanged report := by
  have accepted :
      (Replay.run {} ⟨"cap"⟩ halfChanged (Simulator.new .plain ())).1.isOk := by decide +kernel
  obtain ⟨summary, ⟨written, after⟩, replayed⟩ := DeviceM.exists_of_isOk accepted
  have read : Capture.read halfChanged ⟨"cap"⟩ {} = .ok halfChangedCapture := by decide +kernel
  obtain ⟨report, validated, decides⟩ := run_after_idle_replay (by decide) read
    halfChanged_comparable halfChanged_agrees rfl halfChanged_collisionFree replayed
  exact ⟨summary, written, after, report, replayed, validated, decides⟩

end Validation

end LaunchReplay
