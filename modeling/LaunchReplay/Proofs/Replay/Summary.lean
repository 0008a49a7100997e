import LaunchReplay.Proofs.Replay.Attempts
import LaunchReplay.Proofs.Replay.Files
import LaunchReplay.Proofs.Replay.Slots
import LaunchReplay.Proofs.Validation.IdleReplay

/-!
# Summaries that are true

The summary of a replay is put together from what was bound, launched, read back and written. On any
lawful device it tells of exactly the outputs that the captured arguments have, and of files that
are there with the content that it gives the digests of.
-/

namespace LaunchReplay

/-! ## Rejected device binaries -/

variable {σ : Type} [Device σ] {launch : Launch} {before middle after : σ}

/-- Whether a device fails with some binaries, one after the other, with a notice about each. -/
inductive Rejects (launch : Launch) : σ → List NamedBlob → List Notice → σ → Prop
  /-- Without binaries there is nothing to reject. -/
  | done (device : σ) : Rejects launch device [] [] device
  /-- The first binary fails, and the others are tried after it. -/
  | next {before middle after : σ} {blob : NamedBlob} {rest : List NamedBlob} {error : DeviceError}
    {notices : List Notice}
    (failed : AcquiredProgram.tryBinary launch blob before = (.ok (.error error), middle))
    (others : Rejects launch middle rest notices after) :
    Rejects launch before (blob :: rest) (.rejection blob error :: notices) after

/-- The notices about a program that a device accepts. -/
inductive Program.Rejections (launch : Launch) (device : σ) : Program → List Notice → Prop
  /-- Source text is not rejected. -/
  | source (text : String) : Rejections launch device (.source text) []
  /-- Nor is the intermediate form. -/
  | intermediate (bytes : Bytes) : Rejections launch device (.intermediate bytes) []
  /-- All binaries before the first that works are rejected. -/
  | binaries {failed rest : List NamedBlob} {chosen : NamedBlob} {notices : List Notice}
    {reached after : σ} {made : Handle .program × Handle .kernel}
    (rejects : Rejects launch device failed notices reached)
    (works : AcquiredProgram.tryBinary launch chosen reached = (.ok (.ok made), after)) :
    Rejections launch device (.binaries (failed ++ chosen :: rest)) notices

theorem AcquiredProgram.rejects_of_ofBinaries {rejected : List BinaryAttempt}
    {blobs : List NamedBlob} {acquired : AcquiredProgram}
    (run : ofBinaries launch rejected blobs before = (.ok acquired, after)) :
    ∃ failed chosen rest notices reached made, blobs = failed ++ chosen :: rest ∧
      Rejects launch before failed notices reached ∧
      tryBinary launch chosen reached = (.ok (.ok made), after) ∧
      acquired.notices = rejected.filterMap BinaryAttempt.notice? ++ notices := by
  induction blobs generalizing rejected before with
  | nil => exact (DeviceM.throw_ok run).elim
  | cons blob rest induction =>
      obtain ⟨outcome, middle, tried, run⟩ := DeviceM.bind_ok.mp run
      cases outcome with
      | ok made =>
          obtain ⟨rfl, rfl⟩ := DeviceM.pure_ok.mp run
          refine ⟨[], blob, rest, [], before, made, rfl, .done before, tried, ?_⟩
          simp [notices, BinaryAttempt.notice?]
      | error error =>
          obtain ⟨failed, chosen, others, later, reached, made, rfl, rejects, works, notices_eq⟩ :=
            induction run
          refine ⟨blob :: failed, chosen, others, _, reached, made, rfl, .next tried rejects, works,
            ?_⟩
          rw [notices_eq, List.filterMap_append, List.append_assoc]
          simp [BinaryAttempt.notice?_of_error]

theorem AcquiredProgram.notices_of_ofImage {image : ProgramImage} {acquired : AcquiredProgram}
    (run : ofImage launch image before = (.ok acquired, after)) : acquired.notices = [] := by
  obtain ⟨program, _, _, run⟩ := DeviceM.bind_ok.mp run
  obtain ⟨kernel, _, _, run⟩ := DeviceM.bind_ok.mp run
  obtain ⟨rfl, _⟩ := DeviceM.pure_ok.mp run
  rfl

theorem Program.rejections_of_acquire {program : Program} {acquired : AcquiredProgram}
    (run : program.acquire launch before = (.ok acquired, after)) :
    program.Rejections launch before acquired.notices := by
  cases program with
  | source text =>
      rw [AcquiredProgram.notices_of_ofImage run]
      exact .source text
  | intermediate bytes =>
      rw [AcquiredProgram.notices_of_ofImage run]
      exact .intermediate bytes
  | binaries candidates =>
      cases candidates with
      | nil => exact (DeviceM.throw_ok run).elim
      | cons blob rest =>
          obtain ⟨failed, chosen, others, notices, reached, made, split, rejects, works,
            notices_eq⟩ := AcquiredProgram.rejects_of_ofBinaries run
          rw [split, notices_eq]
          exact .binaries rejects works

/-! ## Records of outputs -/

/-- The record of an output with the path to which it was written, if it was. -/
def Output.record (output : Output) (path : Option Path) : OutputRecord :=
  ⟨output.position, output.kind, output.bytes.length, .ofContent output.bytes, path⟩

theorem DeviceReplay.records_map (outputs : List Output) (place : Output → Option Path) :
    records outputs (outputs.map place) =
      outputs.map fun output => output.record (place output) := by
  rw [records, List.zipWith_map_right, List.zipWith_self]
  rfl

/-- Whether a summary is true of the replay of a capture on a device and of the files after it. -/
structure ReplaySummary.Describes (summary : ReplaySummary) (config : ReplayConfig)
    (capture : Capture) (device : σ) (written : FileTree) : Prop where
  /-- The outputs are those of the capture. -/
  positions : summary.outputs.map (·.position) = capture.outputPositions
  /-- They are in ascending order, none twice. -/
  ascending : (summary.outputs.map (·.position)).Pairwise (· < ·)
  /-- Each is of the kind of its argument, and as long as that was before the launch. -/
  shapes : ∀ record ∈ summary.outputs,
    capture.arguments.outputKind? record.position = some record.kind ∧
      record.length = (ArgumentTable.preState capture.arguments record.position).length
  /-- The kernel was launched as often as was asked for. -/
  enqueues : summary.enqueues = config.repetitions
  /-- The notices are those about the capture, those about shared allocations, and one for each
  binary that was rejected. -/
  notices : ∃ rejections, capture.program.Rejections capture.launch device rejections ∧
    summary.notices =
      capture.notices ++ (AliasPlan.resolve capture.arguments).notices ++ rejections
  /-- If outputs are written, each is in the file of its record. -/
  files : config.writeOutputs = true → ∀ record ∈ summary.outputs, ∃ path content,
    record.path = some path ∧ written.readFile path = .ok content ∧
      content.length = record.length ∧ record.digest = .ofContent content
  /-- Then no two have the same path. -/
  paths : config.writeOutputs = true → (summary.outputs.map (·.path)).Nodup
  /-- If they are not, no record has a path. -/
  pathless : config.writeOutputs = false → ∀ record ∈ summary.outputs, record.path = none

namespace Replay

variable [LawfulDevice σ] {config : ReplayConfig} {capture : Capture} {root : Path}
  {tree written : FileTree} {device used : σ} {summary : ReplaySummary}

theorem describes_of_replay
    (replayed : replay config capture tree device = (.ok summary, written, used)) :
    summary.Describes config capture device written := by
  obtain ⟨work, performed, paths, wrote, rfl⟩ := perform_of_replay_ok replayed
  have shapes := DeviceReplay.shapes_of_perform performed
  obtain ⟨_, _, _, _, acquiring, _, _, _, enqueues_eq, notices_eq⟩ :=
    DeviceReplay.perform_reports performed
  have positions_eq := DeviceReplay.positions_of_perform performed
  have ascending : (work.outputs.map (·.position)).Pairwise (· < ·) := by
    rw [positions_eq]
    exact ArgumentTable.outputPositions_ascending capture.arguments
  obtain ⟨place, rfl, placed⟩ := placed_of_write (ascending.imp Nat.ne_of_lt) wrote
  have outputs_eq : (work.summary capture.launch (work.outputs.map place)).outputs =
      work.outputs.map fun output => output.record (place output) :=
    DeviceReplay.records_map work.outputs place
  refine ⟨?_, ?_, ?_, enqueues_eq, ⟨_, Program.rejections_of_acquire acquiring, notices_eq⟩,
    ?_, ?_, ?_⟩
  · rw [outputs_eq, List.map_map]
    exact positions_eq
  · rw [outputs_eq, List.map_map]
    exact ascending
  · rw [outputs_eq, List.forall_mem_map]
    intro output output_mem
    exact ArgumentTable.eq_of_mem_outputShapes (shapes ▸ List.mem_map_of_mem output_mem)
  · intro writes
    rw [outputs_eq, List.forall_mem_map]
    intro output output_mem
    obtain ⟨path, place_eq, holds⟩ := placed.held writes output output_mem
    exact ⟨path, output.bytes, place_eq, holds.readFile_eq, rfl, rfl⟩
  · intro writes
    rw [outputs_eq, List.map_map]
    exact placed.apart writes
  · intro unasked
    rw [outputs_eq, List.forall_mem_map]
    exact placed.absent unasked

/-- A replay of a capture changes no file if outputs are not to be written or there are none,
whatever comes of it. -/
theorem tree_of_replay
    (idle : config.writeOutputs = false ∨ capture.outputPositions = []) :
    (replay config capture tree device).2.1 = tree := by
  rw [replay]
  split
  · rfl
  · rename_i work _ performed
    have unasked : (config.writeOutputs && !work.outputs.isEmpty) = false := by
      rcases idle with unasked | nowhere
      · rw [unasked, Bool.false_and]
      · have positions_eq := (DeviceReplay.positions_of_perform performed).trans nowhere
        have nothing : work.outputs = [] := List.map_eq_nil_iff.mp positions_eq
        rw [nothing, List.isEmpty_nil, Bool.not_true, Bool.and_false]
    rw [write, unasked]
    rfl

/-- A replay that succeeds on a lawful device gives a summary that is true of what was done and of
the files that it leaves. If outputs are not to be written, or the capture has none, it changes no
file, also if it fails. -/
theorem run_described (config : ReplayConfig) (root : Path) (tree : FileTree) (device : σ) :
    (∀ summary written used, run config root tree device = (.ok summary, written, used) →
        ∃ capture, Capture.read tree root ⟨config.forceSvm⟩ = .ok capture ∧
          summary.Describes config capture device written) ∧
      ∀ capture, Capture.read tree root ⟨config.forceSvm⟩ = .ok capture →
        config.writeOutputs = false ∨ capture.outputPositions = [] →
          (run config root tree device).2.1 = tree := by
  refine ⟨fun summary written used replayed => ?_, fun capture read idle => ?_⟩
  · obtain ⟨capture, read, replay_eq⟩ := run_ok replayed
    exact ⟨capture, read, describes_of_replay replay_eq⟩
  · unfold run
    rw [read]
    exact tree_of_replay idle

theorem run_described_halfChanged :
    ∃ summary written used,
      run {} ⟨"cap"⟩ Validation.halfChanged addingDevice = (.ok summary, written, used) ∧
        (∃ capture, summary.Describes {} capture addingDevice written) ∧
        summary.outputs.map (fun record => (record.position, record.length)) =
          [(0, 2), (1, 1)] := by
  have computed : (run {} ⟨"cap"⟩ Validation.halfChanged addingDevice).1.toOption.map
      (fun summary => summary.outputs.map fun record => (record.position, record.length)) =
        some [(0, 2), (1, 1)] := by decide +kernel
  obtain ⟨summary, outcome, outputs_eq⟩ := Option.map_eq_some_iff.mp computed
  have replayed : run {} ⟨"cap"⟩ Validation.halfChanged addingDevice = (.ok summary, _, _) :=
    Prod.ext (Outcome.toOption_eq_some_iff.mp outcome) rfl
  obtain ⟨capture, _, described⟩ :=
    (run_described {} ⟨"cap"⟩ Validation.halfChanged addingDevice).1 summary _ _ replayed
  exact ⟨summary, _, _, replayed, ⟨capture, described⟩, outputs_eq⟩

end Replay

end LaunchReplay
