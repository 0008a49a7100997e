import LaunchReplay.Command.Execute
import LaunchReplay.Proofs.Replay.Rereading
import LaunchReplay.Proofs.Validation.IdleReplay
import LaunchReplay.Proofs.Validation.Report

/-!
# Runs that validate what they wrote

A run that replays and then validates reports, for each output that it wrote and for no other
position, the digest of that output, if there were no outputs of the enqueue before.
-/

namespace LaunchReplay

/-! ## Digests of a report -/

/-- The replayed digests in a report, by position. -/
def ValidationReport.replayedDigests (report : ValidationReport) : List (Nat × String) :=
  report.checks.filterMap fun check => check.replayed.map fun digest => (check.position, digest)

namespace Validation

variable {enqueue : Enqueue} {types : Option ArgumentTypes} {replayed captured : DigestSet}

theorem replayedDigests_report :
    (report enqueue types replayed captured).replayedDigests =
      (positionsOfEither replayed captured).filterMap fun position =>
        ((replayed.get? position).map (·.digest.hex)).map fun digest => (position, digest) := by
  simp [ValidationReport.replayedDigests, report, ValidationReport.ofChecks, check,
    List.filterMap_map, Function.comp_def]

/-- No replayed digest of a report is missed, and none is made up. -/
theorem mem_replayedDigests_iff {position : Nat} {digest : String} :
    (position, digest) ∈ (report enqueue types replayed captured).replayedDigests ↔
      (replayed.get? position).map (·.digest.hex) = some digest := by
  rw [replayedDigests_report, List.mem_filterMap]
  constructor
  · rintro ⟨place, _, found⟩
    obtain ⟨_, held, same⟩ := Option.map_eq_some_iff.mp found
    obtain ⟨rfl, rfl⟩ := Prod.mk.inj same
    exact held
  · intro held
    obtain ⟨entry, found, _⟩ := Option.map_eq_some_iff.mp held
    have listed : position ∈ positionsOfEither replayed captured :=
      mem_positionsOfEither_iff.mpr (.inl (PositionMap.mem_positions_iff.mpr ⟨entry, found⟩))
    exact ⟨position, listed, by rw [held]; rfl⟩

theorem replayedDigests_ascending :
    (report enqueue types replayed captured).replayedDigests.Pairwise
      fun left right => left.1 < right.1 := by
  rw [replayedDigests_report, List.pairwise_filterMap]
  refine (positionsOfEither_ascending replayed captured).imp fun {left right} below => ?_
  intro first first_made second second_made
  obtain ⟨_, _, rfl⟩ := Option.map_eq_some_iff.mp first_made
  obtain ⟨_, _, rfl⟩ := Option.map_eq_some_iff.mp second_made
  exact below

/-- A report on a set of digests has exactly these, in ascending position. -/
theorem replayedDigests_eq {digests : List (Nat × String)}
    (ascending : (digests.map (·.1)).Pairwise (· < ·))
    (held : ∀ position digest, (position, digest) ∈ digests ↔
      (replayed.get? position).map (·.digest.hex) = some digest) :
    (report enqueue types replayed captured).replayedDigests = digests := by
  have irreflexive : Std.Irrefl fun left right : Nat × String => left.1 < right.1 :=
    ⟨fun _ => Nat.lt_irrefl _⟩
  apply replayedDigests_ascending.eq_of_mem_iff (List.pairwise_map.mp ascending)
  rintro ⟨position, digest⟩
  rw [mem_replayedDigests_iff, held]

end Validation

namespace Command

variable {request : RunRequest} {tree written : FileTree} {summary : ReplaySummary}

/-! ## Command lines -/

theorem path?_eq_some {text : String} {path : Path} (made : path? text = some path) :
    path.text ≠ "" := by
  rw [path?] at made
  split at made
  · cases made
  · rename_i nonempty
    cases made
    simpa using nonempty

theorem run?_eq_some {given : GivenArguments} (built : run? given = some (.run request)) :
    request.testDirectory.text ≠ "" := by
  obtain ⟨root, _, built⟩ := Option.bind_eq_some_iff.mp built
  obtain ⟨repetitions, _, built⟩ := Option.bind_eq_some_iff.mp built
  obtain ⟨backend, _, built⟩ := Option.bind_eq_some_iff.mp built
  obtain ⟨testDirectory, test_path, built⟩ := Option.bind_eq_some_iff.mp built
  obtain ⟨postDirectory, _, built⟩ := Option.bind_eq_some_iff.mp built
  cases built
  exact path?_eq_some test_path

/-- Only the arguments of a run ask for a run. -/
theorem run?_of_named {name : String} {build : GivenArguments → Option Command}
    {given : GivenArguments} (listed : (name, build) ∈ named)
    (built : build given = some (.run request)) : run? given = some (.run request) := by
  simp only [named, List.mem_cons, Prod.mk.injEq, List.not_mem_nil, or_false] at listed
  rcases listed with ⟨_, rfl⟩ | ⟨_, rfl⟩ | ⟨_, rfl⟩ | ⟨_, rfl⟩
  · exact built
  · simp [validate?, Option.bind_eq_some_iff] at built
  · simp [inspect?] at built
  · simp [devices?] at built

theorem exists_run?_of_parse? {arguments : List String}
    (parsed : parse? arguments = some (.run request)) :
    ∃ given, run? given = some (.run request) := by
  cases arguments with
  | nil => exact ⟨_, parsed⟩
  | cons first rest =>
      rw [parse?] at parsed
      split at parsed
      · rename_i build found
        obtain ⟨given, _, built⟩ := Option.bind_eq_some_iff.mp parsed
        obtain ⟨before, after, split_eq, _⟩ := List.lookup_eq_some_iff.mp found
        have listed : (first, build) ∈ named := by
          rw [split_eq]
          simp
        exact ⟨given, run?_of_named listed built⟩
      · obtain ⟨given, _, built⟩ := Option.bind_eq_some_iff.mp parsed
        exact ⟨given, built⟩

theorem text_join_ne_empty {root directory : Path} (nonempty : directory.text ≠ "") :
    (root.join directory).text ≠ "" := by
  rw [Path.join]
  split
  · exact nonempty
  · split <;> simp [nonempty]

/-! ## Runs -/

theorem replay_ok (replayed : replay request tree = (.ok summary, written)) :
    ∃ after, Replay.run
      { repetitions := request.repetitions
        forceSvm := request.forceSvm
        testDirectory := request.testDirectory } request.root tree (Simulator.new .plain ()) =
      (.ok summary, written, after) := by
  unfold replay at replayed
  split at replayed
  · cases replayed
  · dsimp only at replayed
    split at replayed
    · rename_i run
      cases replayed
      exact ⟨_, run⟩
    · cases replayed

theorem replayedDigests_mergeNotices (before : Option ReplaySummary) (report : ValidationReport) :
    (mergeNotices before report).replayedDigests = report.replayedDigests := rfl

theorem replayUnlessSkipped_ok {replayed : Option ReplaySummary} :
    replayUnlessSkipped request tree = (.ok replayed, written) ↔
      (request.skipReplay = true ∧ replayed = none ∧ written = tree) ∨
        (request.skipReplay = false ∧ ∃ summary, replayed = some summary ∧
          replay request tree = (.ok summary, written)) := by
  rw [replayUnlessSkipped]
  cases request.skipReplay with
  | true => simp [eq_comm]
  | false =>
      obtain ⟨outcome, after⟩ := replay request tree
      cases outcome <;> simp [eq_comm]

theorem validateIfAsked_ok {before : Option ReplaySummary} {validated : Option ValidationReport} :
    validateIfAsked request before tree = .ok validated ↔
      ((request.validate || request.skipReplay) = false ∧ validated = none) ∨
        ((request.validate || request.skipReplay) = true ∧ ∃ report,
          Validation.run ⟨request.testDirectory, request.postDirectory⟩ request.root tree =
            .ok report ∧ validated = some (mergeNotices before report)) := by
  rw [validateIfAsked]
  cases request.validate || request.skipReplay with
  | false => simp [eq_comm]
  | true =>
      simp only [if_true, validateOutputs, Outcome.map_ok, Outcome.mapError_ok, Bool.true_eq_false,
        false_and, true_and, false_or]
      exact exists_congr fun report => and_congr_right fun _ => eq_comm

/-- A run succeeds with the results of its two parts, of which the second works on the files that
the first leaves. -/
theorem perform_ok_iff {replayed : Option ReplaySummary} {validated : Option ValidationReport} :
    perform request tree = (.ok ⟨replayed, validated⟩, written) ↔
      replayUnlessSkipped request tree = (.ok replayed, written) ∧
        validateIfAsked request replayed written = .ok validated := by
  rw [perform]
  obtain ⟨outcome, after⟩ := replayUnlessSkipped request tree
  cases outcome with
  | error failure => simp
  | ok before =>
      simp only [Prod.mk.injEq, Outcome.map_ok, Except.ok.injEq, RunResult.mk.injEq]
      constructor
      · rintro ⟨⟨report, run, rfl, rfl⟩, rfl⟩
        exact ⟨⟨rfl, rfl⟩, run⟩
      · rintro ⟨⟨rfl, rfl⟩, run⟩
        exact ⟨⟨validated, run, rfl, rfl⟩, rfl⟩

theorem perform_ok {result : RunResult} (replaying : request.skipReplay = false)
    (validating : request.validate = true)
    (performed : perform request tree = (.ok result, written)) :
    ∃ summary report, replay request tree = (.ok summary, written) ∧
      Validation.run ⟨request.testDirectory, request.postDirectory⟩ request.root written =
        .ok report ∧
      result = ⟨some summary, some (mergeNotices (some summary) report)⟩ := by
  obtain ⟨before, after⟩ := result
  obtain ⟨first, second⟩ := perform_ok_iff.mp performed
  obtain ⟨skipped, _⟩ | ⟨_, summary, rfl, replayed⟩ := replayUnlessSkipped_ok.mp first
  · cases skipped.symm.trans replaying
  · obtain ⟨unasked, _⟩ | ⟨_, report, validated, rfl⟩ := validateIfAsked_ok.mp second
    · cases (Bool.or_eq_false_iff.mp unasked).1.symm.trans validating
    · exact ⟨summary, report, replayed, validated, rfl⟩

/-- What is validated after a replay is exactly what the replay wrote, if the name of the kernel
does not look like the position of an output and no outputs of the enqueue were there before. The
outputs that are read again are never two at one position. -/
theorem validated_as_written {arguments : List String}
    (parsed : parse? arguments = some (.run request)) (replaying : request.skipReplay = false)
    (validating : request.validate = true) (formed : tree.WellFormed)
    (replayed : replay request tree = (.ok summary, written))
    (plain : '/' ∉ summary.kernelName.toList)
    (silent : ¬ Naming.EmbedsPosition summary.kernelName)
    (vacant : ∀ location kind,
      written.Reaches (request.root.join request.testDirectory) location →
        Artifact.Vacant tree location (.test summary.enqueue kind)) :
    (∀ position first second,
      DigestSet.replayed written (request.root.join request.testDirectory) summary.enqueue ≠
        .error (.capture (.duplicate position first second))) ∧
      ∀ result after, perform request tree = (.ok result, after) →
        after = written ∧ ∃ report, result = ⟨some summary, some report⟩ ∧
          report.replayedDigests = summary.outputDigests := by
  obtain ⟨given, built⟩ := exists_run?_of_parse? parsed
  obtain ⟨_, run⟩ := replay_ok replayed
  obtain ⟨enqueue_read, ascending, reread⟩ := Replay.digests_of_run formed rfl
    (text_join_ne_empty (run?_eq_some built)) run plain silent vacant
  constructor
  · intro position first second duplicate
    rcases reread with ⟨set, scanned, _⟩ | ⟨reason, unread⟩
    · cases scanned.symm.trans duplicate
    · cases unread.symm.trans duplicate
  · intro result after performed
    obtain ⟨other, report, replayed_again, validated, rfl⟩ :=
      perform_ok replaying validating performed
    -- The replay in the run is the one that is given, so both leave the same files.
    obtain ⟨same, rfl⟩ := Prod.mk.inj (replayed.symm.trans replayed_again)
    obtain rfl := Except.ok.inj same
    rw [Validation.run, enqueue_read] at validated
    obtain ⟨_, _, _, scanned, _, _, rfl⟩ := Validation.compare_ok validated
    refine ⟨rfl, _, rfl, ?_⟩
    rcases reread with ⟨set, scanned_again, digests⟩ | ⟨reason, unread⟩
    · obtain rfl := Except.ok.inj (scanned_again.symm.trans scanned)
      rw [replayedDigests_mergeNotices, Validation.replayedDigests_eq ascending digests]
    · cases unread.symm.trans scanned

/-- What a command line asks for that validates after a replay. -/
def validatingRequest : RunRequest where
  root := ⟨"cap"⟩
  repetitions := 1
  skipReplay := false
  validate := true
  forceSvm := false
  backend := .simulator
  testDirectory := ⟨"Test"⟩
  postDirectory := ⟨"Post"⟩
  json := false

theorem halfChanged_vacant (pattern : FilePattern) :
    Artifact.Vacant Validation.halfChanged ["cap", "Test"] pattern := by
  intro file content held
  have listed := (FileTree.entry?_eq_some_iff (by simp)).mp held
  simp [Validation.halfChanged] at listed

/-- All that is computed of the run is computed at once, so that its replay runs only once. -/
theorem halfChanged_computed :
    (perform validatingRequest Validation.halfChanged).1.toOption.map (fun result =>
        result.report.map (·.verdict)) = some (some .mismatch) ∧
      (replay validatingRequest Validation.halfChanged).1.toOption.map (fun summary =>
        (summary.kernelName, summary.outputDigests.map (·.1))) = some ("f", [0, 1]) ∧
      (replay validatingRequest Validation.halfChanged).2.walk ⟨"cap/Test"⟩
        (Path.segments ⟨"cap/Test"⟩) = .ok ["cap", "Test"] ∧
      (replay validatingRequest Validation.halfChanged).2.isDirectoryAt ["cap", "Test"] = true := by
  decide +kernel

theorem halfChanged_validated_as_written :
    ∃ summary written report,
      perform validatingRequest Validation.halfChanged =
        (.ok ⟨some summary, some report⟩, written) ∧
      report.replayedDigests = summary.outputDigests ∧
      summary.outputDigests.map (·.1) = [0, 1] := by
  obtain ⟨validated, described, walked, inside⟩ := halfChanged_computed
  obtain ⟨result, outcome, _⟩ := Option.map_eq_some_iff.mp validated
  have performed : perform validatingRequest Validation.halfChanged = (.ok result, _) :=
    Prod.ext (Outcome.toOption_eq_some_iff.mp outcome) rfl
  obtain ⟨summary, _, replayed, _⟩ := perform_ok rfl rfl performed
  rw [replayed] at described walked inside
  obtain ⟨name_eq, positions_eq⟩ : summary.kernelName = "f" ∧
      summary.outputDigests.map (·.1) = [0, 1] := by
    simpa [Except.toOption] using described
  have parsed : parse? ["cap", "--validate"] = some (.run validatingRequest) := by decide +kernel
  obtain ⟨_, as_written⟩ := validated_as_written parsed rfl rfl (by decide) replayed
    (by rw [name_eq]; decide)
    (by rw [name_eq, Naming.embedsPosition_iff]; decide)
    (fun location kind again => by
      rw [again.unique ⟨walked, inside⟩]
      exact halfChanged_vacant _)
  obtain ⟨_, report, rfl, same⟩ := as_written result _ performed
  exact ⟨summary, _, report, performed, same, positions_eq⟩

end Command

end LaunchReplay
