import LaunchReplay.Proofs.Command.Run
import LaunchReplay.Proofs.Notices

/-!
# What a run prints

A run prints the lines about its replay without the notices among them, and then either those
notices or the report of the validation, in which they stand before its own. So each notice is
printed once, whatever the number of outputs and notices.
-/

namespace LaunchReplay

open Notice (Staged)

/-! ## Validations -/

namespace Validation

/-- Whether all that is compared can be read: the index of the enqueue, the outputs on both sides
and the argument types. -/
def Readable (config : ValidationConfig) (root : Path) (tree : FileTree) : Prop :=
  ∃ enqueue replayed captured types, Enqueue.read tree root = .ok enqueue ∧
    DigestSet.replayed tree (root.join config.testDirectory) enqueue = .ok replayed ∧
    DigestSet.captured tree (root.join config.postDirectory) enqueue = .ok captured ∧
    ArgumentTypes.read tree (root.child Naming.argumentTypesFile) = .ok types

variable {config : ValidationConfig} {root : Path} {tree : FileTree}

/-- A validation gives a report if all can be read, also where the outputs differ. -/
theorem exists_report_iff :
    (∃ report, run config root tree = .ok report) ↔ Readable config root tree := by
  constructor
  · rintro ⟨report, run⟩
    obtain ⟨enqueue, enqueue_read, compared⟩ := Outcome.bind_ok.mp run
    obtain ⟨replayed, captured, types, replayed_read, captured_read, types_read, _⟩ :=
      compare_ok compared
    exact ⟨enqueue, replayed, captured, types, Outcome.mapError_ok.mp enqueue_read, replayed_read,
      captured_read, types_read⟩
  · rintro ⟨enqueue, replayed, captured, types, enqueue_read, replayed_read, captured_read,
      types_read⟩
    have compared : compare config root tree enqueue =
        .ok (report enqueue types replayed captured) := by
      rw [Validation.compare.eq_def, replayed_read, captured_read, types_read]
      rfl
    exact ⟨_, Outcome.bind_ok.mpr ⟨enqueue, Outcome.mapError_ok.mpr enqueue_read, compared⟩⟩

end Validation

namespace Command

variable {request : RunRequest} {tree written : FileTree} {summary : Option ReplaySummary}
  {report : Option ValidationReport}

/-! ## Parts of a run -/

/-- What comes of the replay of a run, and which files it leaves. -/
inductive Replayed (request : RunRequest) (tree : FileTree) :
    Option ReplaySummary → FileTree → Prop
  /-- It is skipped. -/
  | skipped (skip : request.skipReplay = true) : Replayed request tree none tree
  /-- It is done. The outputs are those of the capture in position order, and the notices are those
  about the capture, about shared allocations and about rejected binaries. -/
  | done {summary : ReplaySummary} {written : FileTree} {capture : Capture}
    {rejections : List Notice} (asked : request.skipReplay = false)
    (replayed : replay request tree = (.ok summary, written))
    (read : Capture.read tree request.root ⟨request.forceSvm⟩ = .ok capture)
    (positions : summary.outputs.map (·.position) = capture.outputPositions)
    (ascending : (summary.outputs.map (·.position)).Pairwise (· < ·))
    (rejected : capture.program.Rejections capture.launch (Simulator.new .plain ()) rejections)
    (notices_eq : summary.notices =
      capture.notices ++ (AliasPlan.resolve capture.arguments).notices ++ rejections) :
    Replayed request tree (some summary) written

/-- What comes of the validation of a run. -/
inductive Validated (request : RunRequest) (written : FileTree) : Option ValidationReport → Prop
  /-- It is not asked for. -/
  | unasked (unasked : (request.validate || request.skipReplay) = false) :
    Validated request written none
  /-- It is done. The checks are in position order, and the notices are those about missing argument
  types and about the checks that are not equal. -/
  | done {report : ValidationReport} (asked : (request.validate || request.skipReplay) = true)
    (run : Validation.run ⟨request.testDirectory, request.postDirectory⟩ request.root written =
      .ok report)
    (ascending : (report.checks.map (·.position)).Pairwise (· < ·))
    (notices_eq : report.notices =
      (if written.lookup (request.root.child Naming.argumentTypesFile) = .error .notFound then
        [.optionalMetadataAbsent Naming.argumentTypesFile] else []) ++
      (report.checks.filter (!·.equal)).map fun check =>
        .validationMismatch check.position check.dataType) :
    Validated request written (some report)

/-- The notices of a replay, if there was one. -/
def replayNotices (summary : Option ReplaySummary) : List Notice :=
  (summary.map (·.notices)).getD []

/-- The notices of a validation, if there was one. -/
def validationNotices (report : Option ValidationReport) : List Notice :=
  (report.map (·.notices)).getD []

theorem replayed_of_ok (run : replayUnlessSkipped request tree = (.ok summary, written)) :
    Replayed request tree summary written ∧ Staged 0 4 (replayNotices summary) := by
  obtain ⟨skip, rfl, rfl⟩ | ⟨asked, summary, rfl, replayed⟩ := replayUnlessSkipped_ok.mp run
  · exact ⟨.skipped skip, .nil⟩
  · obtain ⟨_, run⟩ := replay_ok replayed
    obtain ⟨capture, read, run⟩ := Replay.run_ok run
    have described := Replay.describes_of_replay run
    obtain ⟨rejections, rejected, notices_eq⟩ := described.notices
    refine ⟨.done asked replayed read described.positions described.ascending rejected notices_eq,
      ?_⟩
    obtain ⟨program_read, captured⟩ := Capture.staged_notices read
    have aliased := AliasPlan.staged_notices capture.arguments
    have rejected := rejected.staged program_read
    rw [replayNotices, Option.map_some, Option.getD_some, notices_eq]
    exact (captured.append aliased (by decide) (by decide)).append rejected (by decide) (by decide)

theorem validated_of_ok {merged : Option ValidationReport}
    (run : validateIfAsked request summary written = .ok merged) :
    ∃ report, Validated request written report ∧ Staged 4 6 (validationNotices report) ∧
      merged = report.map (mergeNotices summary) := by
  obtain ⟨unasked, rfl⟩ | ⟨asked, report, validated, rfl⟩ := validateIfAsked_ok.mp run
  · exact ⟨none, .unasked unasked, .nil, rfl⟩
  · refine ⟨some report, ?_⟩
    obtain ⟨enqueue, _, compared⟩ := Outcome.bind_ok.mp validated
    obtain ⟨replayed, captured, types, _, _, types_read, rfl⟩ := Validation.compare_ok compared
    refine ⟨.done asked validated ?_ ?_, Validation.staged_notices enqueue types replayed captured,
      rfl⟩
    · exact List.pairwise_map.mpr (Validation.ascending_checks enqueue types replayed captured)
    · rw [← Validation.typesNotices_eq types_read]
      rfl

/-! ## Printing -/

/-- The lines about a replay and a validation. The notices of the replay are among those of the
report if there is one, and last otherwise. -/
def accountLines (summary : Option ReplaySummary) (report : Option ValidationReport) :
    List String :=
  (match summary with
    | none => []
    | some summary =>
      summary.headline :: summary.geometryLine :: summary.outputs.map OutputRecord.line) ++
  match report with
  | none => (replayNotices summary).map Notice.message
  | some report =>
    report.checks.map PositionCheck.line ++ [""] ++
      (replayNotices summary ++ report.notices).map Notice.message ++ [report.verdict.message]

/-- The cut through the lines of a summary is right before its notices. -/
theorem replayLines_eq (summary : ReplaySummary) :
    replayLines summary =
      summary.headline :: summary.geometryLine :: summary.outputs.map OutputRecord.line := by
  have cut : 1 + summary.outputs.length =
      (summary.geometryLine :: summary.outputs.map OutputRecord.line).length := by
    rw [List.length_cons, List.length_map, Nat.add_comm]
  simp only [replayLines, ReplaySummary.lines, ReplaySummary.resultLines, List.cons_append]
  rw [← List.cons_append, cut, List.take_left]

theorem runLines_eq (summary : Option ReplaySummary) (report : Option ValidationReport) :
    runLines false ⟨summary, report.map (mergeNotices summary)⟩ = accountLines summary report := by
  cases summary <;> cases report <;>
    simp [runLines, accountLines, reportLines, mergeNotices, replayLines_eq, replayNotices]

theorem exitCode_ofResult {outcome : Except CommandFailure (List String)} :
    (CommandOutcome.ofResult outcome).exitCode = 0 ↔ ∃ lines, outcome = .ok lines := by
  rcases outcome with (_ | _) | lines <;>
    simp [CommandOutcome.ofResult, CommandOutcome.printed, CommandOutcome.failed,
      CommandFailure.exitCode]

theorem execute_run (request : RunRequest) (tree : FileTree) :
    execute (.run request) tree =
      (.ofResult ((perform request tree).1.map (runLines request.json)),
        (perform request tree).2) := rfl

theorem exists_performed_iff :
    (∃ result, (perform request tree).1 = .ok result) ↔
      ∃ summary written, replayUnlessSkipped request tree = (.ok summary, written) ∧
        ((request.validate || request.skipReplay) = true →
          Validation.Readable ⟨request.testDirectory, request.postDirectory⟩ request.root
            written) := by
  constructor
  · rintro ⟨⟨summary, merged⟩, performed⟩
    obtain ⟨replayed, validated⟩ := perform_ok_iff.mp (Prod.ext performed rfl)
    refine ⟨summary, _, replayed, fun asked => ?_⟩
    obtain ⟨unasked, _⟩ | ⟨_, report, run, _⟩ := validateIfAsked_ok.mp validated
    · cases unasked.symm.trans asked
    · exact Validation.exists_report_iff.mp ⟨report, run⟩
  · rintro ⟨summary, written, replayed, readable⟩
    have validated : ∃ merged, validateIfAsked request summary written = .ok merged := by
      cases asked : request.validate || request.skipReplay with
      | false => exact ⟨none, validateIfAsked_ok.mpr (.inl ⟨asked, rfl⟩)⟩
      | true =>
          obtain ⟨report, run⟩ := Validation.exists_report_iff.mpr (readable asked)
          exact ⟨_, validateIfAsked_ok.mpr (.inr ⟨asked, report, run, rfl⟩)⟩
    obtain ⟨merged, validated⟩ := validated
    exact ⟨_, congrArg Prod.fst (perform_ok_iff.mpr ⟨replayed, validated⟩)⟩

/-- A run that succeeds and is to print text prints the headline, the launches and the outputs of
its replay, if there was one, and then the report of its validation with all notices, those of the
replay first, or just the notices of the replay if there was no validation. These are the notices of
the capture, of shared allocations, of rejected binaries and of the validation, none of them twice.
A run fails only if its replay does or if something that is to be compared cannot be read; whether
the outputs agree makes no difference. -/
theorem run_reports_once (request : RunRequest) (textual : request.json = false) (tree : FileTree) :
    (∀ result written, perform request tree = (.ok result, written) →
      ∃ report, Replayed request tree result.summary written ∧ Validated request written report ∧
        result.report = report.map (mergeNotices result.summary) ∧
        (replayNotices result.summary ++ validationNotices report).Nodup ∧
        execute (.run request) tree = (.printed (accountLines result.summary report), written)) ∧
    ((execute (.run request) tree).1.exitCode = 0 ↔
      ∃ summary written, replayUnlessSkipped request tree = (.ok summary, written) ∧
        ((request.validate || request.skipReplay) = true →
          Validation.Readable ⟨request.testDirectory, request.postDirectory⟩ request.root
            written)) := by
  constructor
  · rintro ⟨summary, merged⟩ written performed
    obtain ⟨replayed, validated⟩ := perform_ok_iff.mp performed
    obtain ⟨done, replay_staged⟩ := replayed_of_ok replayed
    obtain ⟨report, compared, validation_staged, rfl⟩ := validated_of_ok validated
    have staged := replay_staged.append validation_staged (by decide) (by decide)
    refine ⟨report, done, compared, rfl, staged.distinct, ?_⟩
    rw [execute_run, performed, textual]
    exact congrArg (fun lines => (CommandOutcome.printed lines, written))
      (runLines_eq summary report)
  · rw [execute_run, exitCode_ofResult, ← exists_performed_iff]
    simp

/-- The outputs of the replay differ from the captured ones, which is reported and is no failure. -/
theorem halfChanged_reported_once :
    ∃ result report written,
      perform validatingRequest Validation.halfChanged = (.ok result, written) ∧
      result.report.map (·.verdict) = some .mismatch ∧
      (replayNotices result.summary ++ validationNotices report).Nodup ∧
      execute (.run validatingRequest) Validation.halfChanged =
        (.printed (accountLines result.summary report), written) ∧
      (execute (.run validatingRequest) Validation.halfChanged).1.exitCode = 0 := by
  obtain ⟨result, outcome, verdict_eq⟩ := Option.map_eq_some_iff.mp halfChanged_computed.1
  have performed : perform validatingRequest Validation.halfChanged = (.ok result, _) :=
    Prod.ext (Outcome.toOption_eq_some_iff.mp outcome) rfl
  obtain ⟨printed, _⟩ := run_reports_once validatingRequest rfl Validation.halfChanged
  obtain ⟨report, _, _, _, distinct, executed⟩ := printed result _ performed
  refine ⟨result, report, _, performed, verdict_eq, distinct, executed, ?_⟩
  rw [executed]
  rfl

end Command

end LaunchReplay
