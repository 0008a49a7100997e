import LaunchReplay.Capture.Read
import LaunchReplay.Proofs.Capture.Scan

/-!
# Claims of positions

Four groups of files claim positions one after the other. If none claims a position that another has
taken, the table has at each position what the file there holds; otherwise the claim is an error.
-/

namespace LaunchReplay

open Artifact

variable {tree : FileTree} {root : Path} {enqueue : Enqueue} {records : ArgumentRecords}
  {svmActive : Bool}

/-! ## Groups of files -/

/-- The groups of files that claim positions. -/
inductive ClaimGroup
  /-- Contents of buffers before the launch. -/
  | buffer
  /-- Contents of images before the launch. -/
  | image
  /-- Descriptions of samplers. -/
  | sampler
  /-- Sizes of local memory. -/
  | localMemory
deriving DecidableEq

namespace ClaimGroup

/-- The groups that claim before a group, the last of them first. -/
def earlier : ClaimGroup → List ClaimGroup
  | buffer => []
  | image => [.buffer]
  | sampler => [.image, .buffer]
  | localMemory => [.sampler, .image, .buffer]

/-- All groups, the last to claim first. -/
def all : List ClaimGroup := .localMemory :: earlier .localMemory

theorem mem_all (group : ClaimGroup) : group ∈ all := by
  cases group <;> decide

/-- The directory of a group. -/
def directory (root : Path) : ClaimGroup → Path
  | buffer | image => root.child Naming.preDirectory
  | sampler | localMemory => root

/-- The pattern of a group. -/
def pattern (enqueue : Enqueue) : ClaimGroup → FilePattern
  | buffer => .preBuffer enqueue
  | image => .preImage enqueue
  | sampler => .sampler
  | localMemory => .localMemory

/-- What a file of a group holds. -/
def decode (tree : FileTree) (root : Path) (records : ArgumentRecords) (svmActive : Bool) :
    ClaimGroup → Nat → Path → Except CaptureError Argument
  | buffer => fun position path =>
    (Artifact.bytes tree path).map (records.buffer svmActive position)
  | image => ArgumentTable.readImage tree root
  | sampler => fun _ => ArgumentTable.readSampler tree
  | localMemory => fun _ => ArgumentTable.readLocalMemory tree

/-- The kind of the arguments of a group. -/
def kind (svmActive : Bool) : ClaimGroup → ArgumentKind
  | buffer => if svmActive then .svm else .buffer
  | image => .image
  | sampler => .sampler
  | localMemory => .localMemory

/-- Whether a file of a group matches a position. -/
def Matches (tree : FileTree) (root : Path) (enqueue : Enqueue) (group : ClaimGroup)
    (position : Nat) (file : String) : Prop :=
  Artifact.Matches tree (group.directory root) (group.pattern enqueue) position file

/-- Whether a group has a file for a position. -/
def Has (tree : FileTree) (root : Path) (enqueue : Enqueue) (group : ClaimGroup) (position : Nat) :
    Prop :=
  ∃ file, group.Matches tree root enqueue position file

/-- The positions that a group has files for are those that its scan finds. -/
theorem has_iff_mem_positions {group : ClaimGroup} {files : PositionMap Path} {position : Nat}
    (scanned : scan tree (group.directory root) (group.pattern enqueue) = .ok files) :
    group.Has tree root enqueue position ↔ position ∈ files.positions :=
  (mem_positions_scan_iff scanned).symm

section

variable {group : ClaimGroup} {position : Nat} {path : Path} {argument : Argument}
  (decoded : group.decode tree root records svmActive position path = .ok argument)

include decoded

/-- A file of a group holds an argument of its kind, and the content of one that has memory. -/
theorem kind_and_content_of_decode :
    argument.kind = group.kind svmActive ∧
      ∀ content, argument.preState? = some content → tree.readFile path = .ok content := by
  cases group with
  | buffer =>
      obtain ⟨bytes, read, rfl⟩ := Outcome.map_ok.mp decoded
      have held := Outcome.mapError_ok.mp read
      cases svmActive <;> exact ⟨rfl, fun _ same => Option.some.inj same ▸ held⟩
  | image =>
      obtain ⟨_, _, decoded⟩ := Outcome.bind_ok.mp decoded
      obtain ⟨_, _, decoded⟩ := Outcome.bind_ok.mp decoded
      obtain ⟨bytes, read, decoded⟩ := Outcome.bind_ok.mp decoded
      obtain ⟨_, _, decoded⟩ := Outcome.bind_ok.mp decoded
      cases decoded
      exact ⟨rfl, fun _ same => Option.some.inj same ▸ Outcome.mapError_ok.mp read⟩
  | sampler =>
      obtain ⟨_, _, decoded⟩ := Outcome.bind_ok.mp decoded
      cases decoded
      exact ⟨rfl, nofun⟩
  | localMemory =>
      obtain ⟨_, _, decoded⟩ := Outcome.bind_ok.mp decoded
      obtain ⟨_, _, rfl⟩ := Outcome.map_ok.mp decoded
      exact ⟨rfl, nofun⟩

theorem kind_of_decode : argument.kind = group.kind svmActive :=
  (kind_and_content_of_decode decoded).1

theorem readFile_of_decode {content : Bytes} (memory : argument.preState? = some content) :
    tree.readFile path = .ok content :=
  (kind_and_content_of_decode decoded).2 content memory

end

theorem kind_ne_scalar (group : ClaimGroup) (svmActive : Bool) :
    group.kind svmActive ≠ .scalar := by
  cases svmActive <;> cases group <;> exact nofun

theorem kind_injective (svmActive : Bool) : Function.Injective (kind svmActive) := by
  intro group other same
  cases svmActive <;> cases group <;> cases other <;> first | rfl | cases same

end ClaimGroup

/-! ## Claims -/

namespace ArgumentTable

theorem claim_ok {table claimed : ArgumentTable} {position : Nat} {argument : Argument}
    (run : claim table position argument = .ok claimed) :
    table.get? position = none ∧ claimed = table.insert position argument := by
  rw [claim] at run
  split at run
  · cases run
  · rename_i unset
    cases run
    exact ⟨unset, rfl⟩

theorem claim_error {table : ArgumentTable} {position : Nat} {argument : Argument}
    {cause : DecodeError} (run : claim table position argument = .error cause) :
    ∃ holder, table.get? position = some holder ∧
      cause = .conflictingKind position holder.kind argument.kind := by
  rw [claim] at run
  split at run
  · rename_i holder held
    cases run
    exact ⟨holder, held, rfl⟩
  · cases run

theorem filled_of_claimFiles {decode : Nat → Path → Except CaptureError Argument}
    {files : PositionMap Path} {table claimed : ArgumentTable}
    (run : claimFiles decode files table = .ok claimed) :
    PositionMap.Filled decode files table claimed := by
  refine PositionMap.filled_of_foldlM (fun entry map next stepped => ?_) run
  obtain ⟨argument, decoded, stepped⟩ := Outcome.bind_ok.mp stepped
  obtain ⟨unset, next_eq⟩ := claim_ok (Outcome.mapError_ok.mp stepped)
  exact ⟨argument, decoded, unset, next_eq⟩

/-- Claims the positions of a group, each for what the file there holds. -/
def claimGroup (tree : FileTree) (root : Path) (enqueue : Enqueue) (records : ArgumentRecords)
    (svmActive : Bool) (group : ClaimGroup) (table : ArgumentTable) :
    Except CaptureError ArgumentTable := do
  let files ← scan tree (group.directory root) (group.pattern enqueue)
  claimFiles (group.decode tree root records svmActive) files table

/-- Refuses a recorded offset where there is no buffer, if buffers are shared memory. -/
def checkPlaces (root : Path) (enqueue : Enqueue) (records : ArgumentRecords) (svmActive : Bool)
    (table : ArgumentTable) : Except CaptureError Unit :=
  if svmActive then
    checkOffsets records (root.child Naming.preDirectory) (.preBuffer enqueue) table
  else .ok ()

theorem checkPlaces_ok_iff {table : ArgumentTable} :
    checkPlaces root enqueue records svmActive table = .ok () ↔
      (svmActive = true → ∀ position ∈ records.offsets.positions, position ∈ table.positions) := by
  cases svmActive with
  | false => simp [checkPlaces]
  | true =>
      have missing_iff : ∀ position,
          (!table.contains position) = true ↔ position ∉ table.positions := by
        intro position
        rw [← PositionMap.contains_iff, Bool.not_eq_true', Bool.not_eq_true]
      rw [checkPlaces, if_pos rfl, checkOffsets]
      split
      · rename_i search
        simpa only [List.find?_eq_none, missing_iff, not_not, true_implies, true_iff] using search
      · rename_i position search
        have missing := List.find?_some search
        have absent := (missing_iff position).mp missing
        simp only [reduceCtorEq, true_implies, false_iff]
        exact fun contained => absent (contained position (List.mem_of_find?_eq_some search))

/-- The groups claim their positions in order, and recorded values are offered at the end. -/
theorem read_eq (tree : FileTree) (root : Path) (enqueue : Enqueue) (records : ArgumentRecords)
    (svmActive : Bool) :
    read tree root enqueue records svmActive = (do
      let table ← claimGroup tree root enqueue records svmActive .buffer .empty
      checkPlaces root enqueue records svmActive table
      let table ← claimGroup tree root enqueue records svmActive .image table
      let table ← claimGroup tree root enqueue records svmActive .sampler table
      let table ← claimGroup tree root enqueue records svmActive .localMemory table
      .ok (offerValues records.values table)) := by
  simp only [claimGroup, bind_assoc]
  cases svmActive <;> rfl

/-- What a table is after some groups have claimed their positions. -/
structure Claimed (tree : FileTree) (root : Path) (enqueue : Enqueue) (records : ArgumentRecords)
    (svmActive : Bool) (groups : List ClaimGroup) (table : ArgumentTable) : Prop where
  /-- At each position is what a file of one of the groups holds. -/
  answers : ∀ position argument, table.get? position = some argument ↔
    ∃ group ∈ groups, ∃ file, group.Matches tree root enqueue position file ∧
      group.decode tree root records svmActive position ((group.directory root).child file) =
        .ok argument
  /-- All files of the groups can be decoded. -/
  decodes : ∀ group ∈ groups, ∀ position file, group.Matches tree root enqueue position file →
    ∃ argument, group.decode tree root records svmActive position
      ((group.directory root).child file) = .ok argument
  /-- No two groups have files for one position. -/
  apart : ∀ group ∈ groups, ∀ other ∈ groups, ∀ position, group.Has tree root enqueue position →
    other.Has tree root enqueue position → group = other

theorem claimed_nil : Claimed tree root enqueue records svmActive [] .empty :=
  ⟨by simp, by simp, by simp⟩

theorem Claimed.mem_positions_iff {groups : List ClaimGroup} {table : ArgumentTable}
    (claimed : Claimed tree root enqueue records svmActive groups table) {position : Nat} :
    position ∈ table.positions ↔ ∃ group ∈ groups, group.Has tree root enqueue position := by
  rw [PositionMap.mem_positions_iff]
  constructor
  · rintro ⟨argument, held⟩
    obtain ⟨group, group_mem, file, hit, _⟩ := (claimed.answers position argument).mp held
    exact ⟨group, group_mem, file, hit⟩
  · rintro ⟨group, group_mem, file, hit⟩
    obtain ⟨argument, decoded⟩ := claimed.decodes group group_mem position file hit
    exact ⟨argument, (claimed.answers position argument).mpr ⟨group, group_mem, file, hit, decoded⟩⟩

theorem Claimed.get?_eq_none_iff {groups : List ClaimGroup} {table : ArgumentTable}
    (claimed : Claimed tree root enqueue records svmActive groups table) {position : Nat} :
    table.get? position = none ↔
      ∀ group ∈ groups, ¬ group.Has tree root enqueue position := by
  rw [← Option.not_isSome_iff_eq_none, Option.isSome_iff_exists, ← PositionMap.mem_positions_iff,
    claimed.mem_positions_iff]
  simp

/-- One more group claims its positions. -/
theorem Claimed.next {groups : List ClaimGroup} {table next : ArgumentTable} {group : ClaimGroup}
    (claimed : Claimed tree root enqueue records svmActive groups table)
    (run : claimGroup tree root enqueue records svmActive group table = .ok next) :
    Claimed tree root enqueue records svmActive (group :: groups) next := by
  obtain ⟨files, scanned, run⟩ := Outcome.bind_ok.mp run
  have filled := filled_of_claimFiles run
  have found : ∀ position file, group.Matches tree root enqueue position file →
      files.get? position = some ((group.directory root).child file) :=
    fun position file hit => (scan_get?_iff scanned).mpr ⟨file, hit, rfl⟩
  -- A group that claimed before has no file for a position of the new one.
  have fresh : ∀ other ∈ groups, ∀ position, other.Has tree root enqueue position →
      ¬ group.Has tree root enqueue position := by
    rintro other other_mem position has ⟨file, hit⟩
    have unset := filled.free position _ (found position file hit)
    obtain ⟨argument, held⟩ := PositionMap.mem_positions_iff.mp
      (claimed.mem_positions_iff.mpr ⟨other, other_mem, has⟩)
    cases held.symm.trans unset
  refine ⟨fun position argument => ?_, ?_, ?_⟩
  · rw [filled.answers, claimed.answers, or_comm]
    simp only [List.mem_cons, exists_eq_or_imp]
    apply or_congr_left
    constructor
    · rintro ⟨path, held, decoded⟩
      obtain ⟨file, hit, rfl⟩ := (scan_get?_iff scanned).mp held
      exact ⟨file, hit, decoded⟩
    · rintro ⟨file, hit, decoded⟩
      exact ⟨_, found position file hit, decoded⟩
  · rw [List.forall_mem_cons]
    exact ⟨fun position file hit => filled.decodes position _ (found position file hit),
      claimed.decodes⟩
  · intro first first_mem second second_mem position first_has second_has
    rcases List.mem_cons.mp first_mem with rfl | first_old <;>
      rcases List.mem_cons.mp second_mem with rfl | second_old
    · rfl
    · exact (fresh second second_old position second_has first_has).elim
    · exact (fresh first first_old position first_has second_has).elim
    · exact claimed.apart first first_old second second_old position first_has second_has

/-! ## Conflicts -/

/-- Claims of files that can all be decoded fail only at a position that was taken before. -/
theorem conflict_of_claimFiles {decode : Nat → Path → Except CaptureError Argument}
    {files : PositionMap Path}
    (decodes : ∀ position path, files.get? position = some path →
      ∃ argument, decode position path = .ok argument)
    {table : ArgumentTable} {error : CaptureError}
    (run : claimFiles decode files table = .error error) :
    ∃ position path holder argument, files.get? position = some path ∧
      table.get? position = some holder ∧ decode position path = .ok argument ∧
      error = .malformed path (.conflictingKind position holder.kind argument.kind) := by
  obtain ⟨entries, ascending⟩ := files
  have listed : ∀ position path, PositionMap.get? ⟨entries, ascending⟩ position = some path ↔
      (position, path) ∈ entries := fun _ _ => PositionMap.get?_eq_some_iff
  simp only [listed] at decodes ⊢
  rw [claimFiles] at run
  clear listed
  induction entries generalizing table with
  | nil => cases run
  | cons entry rest induction =>
      obtain ⟨below, rest_ascending⟩ := List.pairwise_cons.mp ascending
      obtain ⟨argument, decoded⟩ := decodes entry.1 entry.2 (by simp)
      rw [List.foldlM_cons, Outcome.bind_error, decoded] at run
      rcases run with failed | ⟨next, stepped, run⟩
      · obtain ⟨cause, claimed, rfl⟩ := Outcome.mapError_error.mp failed
        obtain ⟨holder, held, rfl⟩ := claim_error claimed
        exact ⟨entry.1, entry.2, holder, argument, by simp, held, decoded, rfl⟩
      · obtain ⟨_, rfl⟩ := claim_ok (Outcome.mapError_ok.mp stepped)
        obtain ⟨position, path, holder, found, path_mem, held, found_decoded, rfl⟩ :=
          induction rest_ascending run
            (fun position path path_mem => decodes position path (by simp [path_mem]))
        -- No later file has the position of the first one.
        have later := below (position, path) path_mem
        rw [PositionMap.get?_insert, if_neg (Nat.ne_of_lt later)] at held
        exact ⟨position, path, holder, found, by simp [path_mem], held, found_decoded, rfl⟩

/-- Whether all that is needed for a table can be read. -/
structure Readable (tree : FileTree) (root : Path) (enqueue : Enqueue) (records : ArgumentRecords)
    (svmActive : Bool) : Prop where
  /-- The files of all groups can be found and decoded. -/
  decodes : ∀ group : ClaimGroup, ∃ files,
    scan tree (group.directory root) (group.pattern enqueue) = .ok files ∧
      ∀ position path, files.get? position = some path →
        ∃ argument, group.decode tree root records svmActive position path = .ok argument
  /-- Where buffers are shared memory, every recorded offset is for one of them. -/
  offsets : svmActive = true → ∀ position ∈ records.offsets.positions,
    ClaimGroup.buffer.Has tree root enqueue position

/-- Whether an error is about a file for a position that an earlier group has claimed. -/
def Clash (tree : FileTree) (root : Path) (enqueue : Enqueue) (svmActive : Bool)
    (error : CaptureError) : Prop :=
  ∃ group : ClaimGroup, ∃ other ∈ group.earlier, ∃ position file,
    other.Has tree root enqueue position ∧ group.Matches tree root enqueue position file ∧
      error = .malformed ((group.directory root).child file)
        (.conflictingKind position (other.kind svmActive) (group.kind svmActive))

/-- If the files of a group cannot claim their positions, one of them has that of another group. -/
theorem Claimed.clash {table : ArgumentTable} {group : ClaimGroup}
    (claimed : Claimed tree root enqueue records svmActive group.earlier table)
    (readable : Readable tree root enqueue records svmActive) {error : CaptureError}
    (run : claimGroup tree root enqueue records svmActive group table = .error error) :
    Clash tree root enqueue svmActive error := by
  obtain ⟨files, scanned, decodes⟩ := readable.decodes group
  rw [claimGroup, scanned] at run
  obtain ⟨position, path, holder, argument, found, held, decoded, rfl⟩ :=
    conflict_of_claimFiles decodes run
  obtain ⟨file, hit, rfl⟩ := (scan_get?_iff scanned).mp found
  obtain ⟨other, other_mem, holderFile, holder_hit, holder_decoded⟩ :=
    (claimed.answers position holder).mp held
  rw [ClaimGroup.kind_of_decode decoded, ClaimGroup.kind_of_decode holder_decoded]
  exact ⟨group, other, other_mem, position, file, ⟨holderFile, holder_hit⟩, hit, rfl⟩

end ArgumentTable

end LaunchReplay
