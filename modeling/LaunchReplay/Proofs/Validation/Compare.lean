import LaunchReplay.Proofs.Validation.DigestSet
import LaunchReplay.Validation.Compare

/-!
# Reports on stored outputs

Where both sides of a comparison hold exactly one file for each output, the report has one check
for each output in ascending position, and a check is equal exactly if the digests of the two
contents are.
-/

namespace LaunchReplay

namespace Validation

theorem positionsOfEither_ascending (replayed captured : DigestSet) :
    (positionsOfEither replayed captured).Pairwise (· < ·) :=
  PositionMap.positions_ascending _

theorem mem_positionsOfEither_iff {replayed captured : DigestSet} {position : Nat} :
    position ∈ positionsOfEither replayed captured ↔
      position ∈ replayed.positions ∨ position ∈ captured.positions := by
  rw [positionsOfEither, PositionMap.mem_positions_ofList_iff, List.map_map, ← List.mem_append]
  simp

theorem verdictOf_eq_allEqual_iff {checks : List PositionCheck} :
    ValidationReport.verdictOf checks = .allEqual ↔ ∀ check ∈ checks, check.equal = true := by
  rw [ValidationReport.verdictOf, ← List.all_eq_true]
  split
  · rename_i all_equal
    simp [all_equal]
  · rename_i differs
    simp [differs]

/-- Whether a report is on some outputs with our contents on one side and theirs on the other. -/
structure Compares (kind? : Nat → Option OutputKind) (ours theirs : Nat → Bytes)
    (report : ValidationReport) : Prop where
  /-- No position is checked twice or out of order. -/
  ascending : (report.checks.map (·.position)).Pairwise (· < ·)
  /-- The positions are those of the outputs. -/
  positions : ∀ position, position ∈ report.checks.map (·.position) ↔ (kind? position).isSome
  /-- A check is equal exactly if the digests are. -/
  equal : ∀ check ∈ report.checks, check.equal = true ↔
    Digest.ofContent (ours check.position) = Digest.ofContent (theirs check.position)
  /-- The verdict is over all checks. -/
  verdict : report.verdict = .allEqual ↔ ∀ check ∈ report.checks, check.equal = true

variable {tree : FileTree} {root : Path} {config : ValidationConfig} {enqueue : Enqueue}
  {types : Option ArgumentTypes} {testName postName : Nat → OutputKind → String}
  {kind? : Nat → Option OutputKind} {ours theirs : Nat → Bytes}

/-- The comparison of stored outputs succeeds and decides whether the digests agree. -/
theorem compare_of_stored
    (replayed : Stored tree (root.join config.testDirectory) (.test enqueue) testName kind? ours)
    (captured : Stored tree (root.join config.postDirectory) (.post enqueue) postName kind? theirs)
    (typed : ArgumentTypes.read tree (root.child Naming.argumentTypesFile) = .ok types) :
    ∃ report, compare config root tree enqueue = .ok report ∧
      Compares kind? ours theirs report := by
  obtain ⟨replayedSet, replayed_eq, replayed_answers⟩ := DigestSet.scan_ok_of_stored replayed
  obtain ⟨capturedSet, captured_eq, captured_answers⟩ := DigestSet.scan_ok_of_stored captured
  have present : ∀ position,
      position ∈ positionsOfEither replayedSet capturedSet ↔ (kind? position).isSome := by
    intro position
    simp only [mem_positionsOfEither_iff, PositionMap.mem_positions_iff, replayed_answers,
      captured_answers, Option.isSome_iff_exists]
    constructor
    · rintro (⟨_, kind, of_kind, _⟩ | ⟨_, kind, of_kind, _⟩) <;> exact ⟨kind, of_kind⟩
    · rintro ⟨kind, of_kind⟩
      exact .inl ⟨_, kind, of_kind, rfl⟩
  refine ⟨report enqueue types replayedSet capturedSet, ?_, ?_, ?_, ?_, verdictOf_eq_allEqual_iff⟩
  · rw [compare, DigestSet.replayed, DigestSet.captured, replayed_eq, captured_eq, typed]
    rfl
  · simpa [report, ValidationReport.ofChecks, Function.comp_def, check] using
      positionsOfEither_ascending replayedSet capturedSet
  · intro position
    simpa [report, ValidationReport.ofChecks, Function.comp_def, check] using present position
  · intro found found_mem
    obtain ⟨position, position_mem, rfl⟩ := List.mem_map.mp found_mem
    obtain ⟨kind, of_kind⟩ := Option.isSome_iff_exists.mp ((present position).mp position_mem)
    have replayed_held := (replayed_answers position _).mpr ⟨kind, of_kind, rfl⟩
    have captured_held := (captured_answers position _).mpr ⟨kind, of_kind, rfl⟩
    simp [check, replayed_held, captured_held, agree]

end Validation

end LaunchReplay
