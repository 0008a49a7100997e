import LaunchReplay.Proofs.AliasPlan.Canonical
import LaunchReplay.Proofs.Capture.Binaries
import LaunchReplay.Proofs.Capture.Read
import LaunchReplay.Proofs.Replay.Summary
import LaunchReplay.Proofs.Validation.Report

/-!
# Notices that are not repeated

The stages of a run give notices of different kinds, each about a position, a group of positions or
a file of its own. So all the notices of a run are distinct.
-/

namespace LaunchReplay

/-! ## Stages -/

/-- The stage of a run at which a notice arises. -/
def Notice.stage : Notice → Nat
  | svmForced _ => 0
  | imageTypeFallback _ _ => 1
  | aliasGroup _ => 2
  | binaryRejected _ _ => 3
  | optionalMetadataAbsent _ => 4
  | validationMismatch _ _ => 5

/-- Whether notices are distinct, and all from the stages from one on up to another. -/
structure Notice.Staged (first last : Nat) (notices : List Notice) : Prop where
  /-- None is repeated. -/
  distinct : notices.Nodup
  /-- The stages are from the first on. -/
  from_first : ∀ notice ∈ notices, first ≤ notice.stage
  /-- They are before the last. -/
  before_last : ∀ notice ∈ notices, notice.stage < last

namespace Notice

variable {first middle last : Nat} {notices later : List Notice}

theorem Staged.append (early : Staged first middle notices) (late : Staged middle last later)
    (ascending : first ≤ middle) (below : middle ≤ last) :
    Staged first last (notices ++ later) where
  distinct := List.nodup_append.mpr ⟨early.distinct, late.distinct,
    fun notice listed other other_listed same =>
      absurd (early.before_last notice listed)
        (Nat.not_lt.mpr (same ▸ late.from_first other other_listed))⟩
  from_first := List.forall_mem_append.mpr
    ⟨early.from_first, fun notice listed => ascending.trans (late.from_first notice listed)⟩
  before_last := List.forall_mem_append.mpr
    ⟨fun notice listed => (early.before_last notice listed).trans_le below, late.before_last⟩

theorem Staged.nil : Staged first last [] := ⟨.nil, by simp, by simp⟩

theorem staged_of_stage (distinct : notices.Nodup)
    (same : ∀ notice ∈ notices, notice.stage = first) : Staged first (first + 1) notices where
  distinct
  from_first notice listed := (same notice listed).ge
  before_last notice listed := Nat.lt_succ_of_le (same notice listed).le

end Notice

open Notice (Staged)

/-! ## Captures -/

theorem ArgumentRecords.staged_notices (records : ArgumentRecords) (options : ReadOptions) :
    Staged 0 1 (records.notices options) := by
  rw [notices]
  split
  · exact .nil
  · exact Notice.staged_of_stage (by simp) (by simp [Notice.stage])

theorem ArgumentTable.imageNotice?_eq_some {entry : Nat × Argument} {notice : Notice}
    (noted : imageNotice? entry = some notice) :
    ∃ code, notice = .imageTypeFallback entry.1 code := by
  unfold imageNotice? at noted
  split at noted
  · exact ⟨_, (Option.some.inj noted).symm⟩
  · cases noted

theorem ArgumentTable.staged_imageNotices (table : ArgumentTable) :
    Staged 1 2 (imageNotices table) := by
  refine Notice.staged_of_stage ?_ fun notice listed => ?_
  · refine table.ascending.filterMap _ fun entry later below notice noted other other_noted => ?_
    obtain ⟨_, rfl⟩ := imageNotice?_eq_some noted
    obtain ⟨_, rfl⟩ := imageNotice?_eq_some other_noted
    simp [Nat.ne_of_lt below]
  · obtain ⟨entry, _, noted⟩ := List.mem_filterMap.mp listed
    obtain ⟨_, rfl⟩ := imageNotice?_eq_some noted
    rfl

theorem Capture.staged_notices {tree : FileTree} {root : Path} {options : ReadOptions}
    {capture : Capture} (run : read tree root options = .ok capture) :
    Program.read tree root = .ok capture.program ∧ Staged 0 2 capture.notices := by
  obtain ⟨_, _, records, _, _, _, program_read, notices_eq⟩ := read_parts run
  refine ⟨program_read, ?_⟩
  rw [notices_eq]
  exact (records.staged_notices options).append
    (ArgumentTable.staged_imageNotices capture.arguments) (by decide) (by decide)

/-! ## Shared allocations -/

theorem AliasPlan.staged_notices (table : ArgumentTable) : Staged 2 3 (resolve table).notices := by
  obtain ⟨buffers, regions, _, notices_eq⟩ := isCanonical_resolve table
  rw [notices_eq]
  refine Notice.staged_of_stage (List.Nodup.map ?_ (List.Nodup.filter _ ?_)) ?_
  · exact fun positions other same => Notice.aliasGroup.inj same
  · refine List.nodup_append.mpr ⟨buffers.nodup, regions.nodup, ?_⟩
    -- No argument is a buffer and a region, and no group is empty.
    rintro positions buffer_group _ region_group rfl
    obtain ⟨position, inside⟩ :=
      List.exists_mem_of_ne_nil _ (buffers.nonempty positions buffer_group)
    have is_buffer := (buffers.members position).mp (List.mem_flatten_of_mem buffer_group inside)
    have is_region := (regions.members position).mp (List.mem_flatten_of_mem region_group inside)
    cases Option.some.inj (is_buffer.symm.trans is_region)
  · intro notice listed
    obtain ⟨_, _, rfl⟩ := List.mem_map.mp listed
    rfl

/-! ## Device binaries -/

section Rejections

variable {σ : Type} [Device σ] {launch : Launch} {before after : σ}

theorem Notice.exists_rejection_eq (blob : NamedBlob) (error : DeviceError) :
    ∃ reason, rejection blob error = .binaryRejected blob.name reason := by
  cases error <;> exact ⟨_, rfl⟩

theorem Rejects.exists_of_mem {blobs : List NamedBlob} {notices : List Notice}
    (rejects : Rejects launch before blobs notices after) {notice : Notice}
    (listed : notice ∈ notices) :
    ∃ blob ∈ blobs, ∃ reason, notice = .binaryRejected blob.name reason := by
  induction rejects with
  | done => cases listed
  | @next _ _ _ blob _ error _ _ _ induction =>
      rcases List.mem_cons.mp listed with rfl | listed
      · exact ⟨blob, List.mem_cons_self, Notice.exists_rejection_eq blob error⟩
      · obtain ⟨other, other_mem, noted⟩ := induction listed
        exact ⟨other, List.mem_cons_of_mem _ other_mem, noted⟩

/-- Binaries with different names are rejected with different notices. -/
theorem Rejects.nodup {blobs : List NamedBlob} {notices : List Notice}
    (rejects : Rejects launch before blobs notices after)
    (distinct : (blobs.map (·.name)).Nodup) : notices.Nodup := by
  induction rejects with
  | done => exact .nil
  | @next _ _ _ blob rest error _ _ others induction =>
      rw [List.map_cons, List.nodup_cons] at distinct
      refine List.nodup_cons.mpr ⟨fun repeated => ?_, induction distinct.2⟩
      obtain ⟨other, other_mem, _, other_eq⟩ := others.exists_of_mem repeated
      obtain ⟨_, rejection_eq⟩ := Notice.exists_rejection_eq blob error
      obtain ⟨same, _⟩ := Notice.binaryRejected.inj (rejection_eq.symm.trans other_eq)
      exact distinct.1 (same ▸ List.mem_map_of_mem other_mem)

theorem Program.nodup_of_read {tree : FileTree} {root : Path} {blobs : List NamedBlob}
    (run : read tree root = .ok (.binaries blobs)) : (blobs.map (·.name)).Nodup := by
  unfold read at run
  split at run
  · obtain ⟨_, _, made⟩ := Outcome.map_ok.mp run
    cases made
  · split at run
    · obtain ⟨_, _, made⟩ := Outcome.map_ok.mp run
      cases made
    · obtain ⟨found, found_read, run⟩ := Outcome.bind_ok.mp run
      cases found with
      | nil => cases run
      | cons =>
          cases run
          exact Artifact.nodup_of_names (readBinaries_ok found_read).1

theorem Program.Rejections.staged {tree : FileTree} {root : Path} {program : Program}
    {notices : List Notice} (rejected : program.Rejections launch before notices)
    (run : read tree root = .ok program) : Staged 3 4 notices := by
  cases rejected with
  | source | intermediate => exact .nil
  | binaries rejects _ =>
      have distinct := nodup_of_read run
      rw [List.map_append, List.nodup_append] at distinct
      refine Notice.staged_of_stage (rejects.nodup distinct.1) fun notice listed => ?_
      obtain ⟨_, _, _, rfl⟩ := rejects.exists_of_mem listed
      rfl

end Rejections

/-! ## Validation -/

theorem Validation.ascending_checks (enqueue : Enqueue) (types : Option ArgumentTypes)
    (replayed captured : DigestSet) :
    (report enqueue types replayed captured).checks.Pairwise fun check later =>
      check.position < later.position :=
  List.pairwise_map.mpr (positionsOfEither_ascending replayed captured)

theorem Validation.staged_notices (enqueue : Enqueue) (types : Option ArgumentTypes)
    (replayed captured : DigestSet) :
    Staged 4 6 (report enqueue types replayed captured).notices := by
  have absent : Staged 4 5 (typesNotices types) := by
    cases types with
    | none =>
        exact Notice.staged_of_stage (by simp [typesNotices]) (by simp [typesNotices, Notice.stage])
    | some _ => exact .nil
  have ascending := ascending_checks enqueue types replayed captured
  refine absent.append (Notice.staged_of_stage ?_ ?_) (by decide) (by decide)
  · refine List.pairwise_map.mpr ((ascending.filter _).imp fun {check later} below same => ?_)
    obtain ⟨position_eq, _⟩ := Notice.validationMismatch.inj same
    exact Nat.ne_of_lt below position_eq
  · intro notice listed
    obtain ⟨_, _, rfl⟩ := List.mem_map.mp listed
    rfl

end LaunchReplay
