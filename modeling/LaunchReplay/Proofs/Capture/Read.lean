import LaunchReplay.Proofs.Argument.Table
import LaunchReplay.Proofs.Capture.Claims

/-!
# What is known of a capture that was read

The enqueue is the one in its file. The kind of an argument is that of the group that has a file for
it; a recorded value is the token of a buffer, or an argument of its own where no group has a file;
and recorded offsets decide whether buffers are shared memory. All positions are 32-bit words, since
those are read from the names of files.
-/

namespace LaunchReplay

open Artifact

variable {tree : FileTree} {root : Path} {enqueue : Enqueue} {records : ArgumentRecords}
  {svmActive : Bool}

namespace ArgumentTable

/-! ## Recorded values -/

theorem get?_foldl_offer (entries : List (Nat × Bytes)) (table : ArgumentTable) (position : Nat) :
    PositionMap.get? (entries.foldl (fun offered entry => offer offered entry.1 entry.2) table)
        position =
      (table.get? position).or
        ((entries.find? fun entry => entry.1 == position).map fun entry => .scalar entry.2) := by
  have served : entries.foldl (fun offered entry => offer offered entry.1 entry.2) table =
      serveAll table (entries.map fun entry => .offer entry.1 entry.2) := by
    rw [serveAll, List.foldl_map]
    rfl
  rw [served, get?_serveAll, firstAt?, List.find?_map, Option.map_map]
  rfl

/-- A recorded value becomes an argument exactly where there is no other. -/
theorem get?_offerValues (values : PositionMap Bytes) (table : ArgumentTable) (position : Nat) :
    (offerValues values table).get? position =
      (table.get? position).or ((values.get? position).map .scalar) := by
  rw [offerValues, get?_foldl_offer, PositionMap.get?.eq_def values, Option.map_map]
  rfl

end ArgumentTable

/-- Whether a file of recorded values matches a position. -/
def ValueMatches (tree : FileTree) (root : Path) (position : Nat) (file : String) : Prop :=
  Artifact.Matches tree root .argument position file

/-- Whether a file of recorded offsets matches a position. -/
def OffsetMatches (tree : FileTree) (root : Path) (position : Nat) (file : String) : Prop :=
  Artifact.Matches tree root .svmOffset position file

/-- Whether a file holds an offset. -/
def HoldsOffset (tree : FileTree) (path : Path) (offset : Nat) : Prop :=
  ∃ text, tree.readText path = .ok text ∧ Integer.parse "svm offset" text.toList = .ok offset

namespace ArgumentRecords

/-- The offset in a file. -/
def readOffset (tree : FileTree) (path : Path) : Except CaptureError Nat := do
  let text ← Artifact.text tree path
  Artifact.decoded path (Integer.parse "svm offset" text.toList)

theorem readOffset_ok_iff {path : Path} {offset : Nat} :
    readOffset tree path = .ok offset ↔ HoldsOffset tree path offset := by
  simp only [readOffset, HoldsOffset, Outcome.bind_ok, Artifact.text, Artifact.decoded,
    Outcome.mapError_ok]

theorem read_ok (run : read tree root = .ok records) :
    Collected tree root .argument (Artifact.bytes tree) records.values ∧
      Collected tree root .svmOffset (readOffset tree) records.offsets := by
  obtain ⟨valueFiles, values_scanned, run⟩ := Outcome.bind_ok.mp run
  obtain ⟨values, values_read, run⟩ := Outcome.bind_ok.mp run
  obtain ⟨offsetFiles, offsets_scanned, run⟩ := Outcome.bind_ok.mp run
  obtain ⟨offsets, offsets_read, run⟩ := Outcome.bind_ok.mp run
  cases run
  exact ⟨collected_of_traverse values_scanned values_read,
    collected_of_traverse offsets_scanned offsets_read⟩

theorem svmActive_iff {options : ReadOptions} :
    records.svmActive options = true ↔ options.forceSvm = true ∨
      ∃ position offset, records.offsets.get? position = some offset ∧ offset ≠ 0 := by
  rw [svmActive, Bool.or_eq_true]
  apply or_congr_right
  simp only [shifted, PositionMap.get?_eq_some_iff, Bool.not_eq_true', List.isEmpty_eq_false_iff,
    ne_eq, List.map_eq_nil_iff, List.filter_eq_nil_iff]
  simp

section

variable (offsets : Collected tree root .svmOffset (readOffset tree) records.offsets)

include offsets

theorem get?_offsets_iff {position offset : Nat} :
    records.offsets.get? position = some offset ↔ ∃ file, OffsetMatches tree root position file ∧
      HoldsOffset tree (root.child file) offset := by
  simp only [offsets.answers, readOffset_ok_iff, OffsetMatches]

theorem svmActive_iff_holdsOffset {options : ReadOptions} :
    records.svmActive options = true ↔ options.forceSvm = true ∨
      ∃ position file offset, OffsetMatches tree root position file ∧
        HoldsOffset tree (root.child file) offset ∧ offset ≠ 0 := by
  rw [svmActive_iff]
  apply or_congr_right
  constructor
  · rintro ⟨position, offset, recorded, nonzero⟩
    obtain ⟨file, hit, holds⟩ := (get?_offsets_iff offsets).mp recorded
    exact ⟨position, file, offset, hit, holds, nonzero⟩
  · rintro ⟨position, file, offset, hit, holds, nonzero⟩
    exact ⟨position, offset, (get?_offsets_iff offsets).mpr ⟨file, hit, holds⟩, nonzero⟩

/-- The recorded offset is the one in the file for a position, or zero if there is no file. -/
theorem getD_offsets (position : Nat) :
    (∀ file, OffsetMatches tree root position file →
      HoldsOffset tree (root.child file) ((records.offsets.get? position).getD 0)) ∧
    ((∀ file, ¬ OffsetMatches tree root position file) →
      (records.offsets.get? position).getD 0 = 0) := by
  constructor
  · intro file hit
    obtain ⟨offset, read⟩ := offsets.decodes position file hit
    rw [(offsets.answers position offset).mpr ⟨file, hit, read⟩]
    exact readOffset_ok_iff.mp read
  · intro absent
    cases recorded : records.offsets.get? position with
    | none => rfl
    | some offset =>
        obtain ⟨file, hit, _⟩ := (get?_offsets_iff offsets).mp recorded
        exact (absent file hit).elim

end

end ArgumentRecords

/-! ## The table that is read -/

namespace ArgumentTable

/-- All groups have claimed their positions, and where buffers are shared memory every recorded
offset is for one of them. -/
theorem claimed_of_read {table : ArgumentTable}
    (run : read tree root enqueue records svmActive = .ok table) :
    (∃ last, Claimed tree root enqueue records svmActive ClaimGroup.all last ∧
      table = offerValues records.values last) ∧
    (svmActive = true → ∀ position ∈ records.offsets.positions,
      ClaimGroup.buffer.Has tree root enqueue position) := by
  rw [read_eq] at run
  obtain ⟨withBuffers, buffers_claimed, run⟩ := Outcome.bind_ok.mp run
  obtain ⟨_, checked, run⟩ := Outcome.bind_ok.mp run
  obtain ⟨withImages, images_claimed, run⟩ := Outcome.bind_ok.mp run
  obtain ⟨withSamplers, samplers_claimed, run⟩ := Outcome.bind_ok.mp run
  obtain ⟨withLocals, locals_claimed, run⟩ := Outcome.bind_ok.mp run
  have claimed := claimed_nil.next buffers_claimed
  constructor
  · exact ⟨withLocals,
      ((claimed.next images_claimed).next samplers_claimed).next locals_claimed,
      (Except.ok.inj run).symm⟩
  · intro active position recorded
    have contained := checkPlaces_ok_iff.mp checked active position recorded
    simpa using claimed.mem_positions_iff.mp contained

section

variable {claimed : ArgumentTable} {position : Nat}
  (claims : Claimed tree root enqueue records svmActive ClaimGroup.all claimed)
  (values : Collected tree root .argument (Artifact.bytes tree) records.values)

include claims

/-- With the recorded values a table has at each position what a file of a group holds, or a plain
value where no group has a file. -/
theorem get?_offerValues_iff {argument : Argument} :
    (offerValues records.values claimed).get? position = some argument ↔
      (∃ group : ClaimGroup, ∃ file, group.Matches tree root enqueue position file ∧
        group.decode tree root records svmActive position ((group.directory root).child file) =
          .ok argument) ∨
      (∀ group : ClaimGroup, ¬ group.Has tree root enqueue position) ∧
        ∃ bytes, records.values.get? position = some bytes ∧ .scalar bytes = argument := by
  rw [get?_offerValues, Option.or_eq_some_iff, claims.answers, claims.get?_eq_none_iff,
    Option.map_eq_some_iff]
  simp only [ClaimGroup.mem_all, true_and, forall_const]

/-- An argument is of the kind of a group exactly if the group has a file for it. -/
theorem kind_offerValues_iff {group : ClaimGroup} :
    ((offerValues records.values claimed).get? position).map Argument.kind =
        some (group.kind svmActive) ↔ group.Has tree root enqueue position := by
  rw [Option.map_eq_some_iff]
  constructor
  · rintro ⟨argument, held, kind_eq⟩
    rcases (get?_offerValues_iff claims).mp held with
      ⟨other, file, hit, decoded⟩ | ⟨_, bytes, _, rfl⟩
    · obtain rfl := ClaimGroup.kind_injective svmActive
        ((ClaimGroup.kind_of_decode decoded).symm.trans kind_eq)
      exact ⟨file, hit⟩
    · exact (group.kind_ne_scalar svmActive kind_eq.symm).elim
  · rintro ⟨file, hit⟩
    obtain ⟨argument, decoded⟩ := claims.decodes group group.mem_all position file hit
    exact ⟨argument, (get?_offerValues_iff claims).mpr (.inl ⟨group, file, hit, decoded⟩),
      ClaimGroup.kind_of_decode decoded⟩

include values

/-- An argument is a plain value exactly if there is nothing but a recorded value for it. -/
theorem scalar_offerValues_iff :
    ((offerValues records.values claimed).get? position).map Argument.kind = some .scalar ↔
      (∃ file, ValueMatches tree root position file) ∧
        ∀ group : ClaimGroup, ¬ group.Has tree root enqueue position := by
  rw [Option.map_eq_some_iff]
  constructor
  · rintro ⟨argument, held, kind_eq⟩
    rcases (get?_offerValues_iff claims).mp held with
      ⟨group, file, hit, decoded⟩ | ⟨unclaimed, bytes, recorded, _⟩
    · exact (group.kind_ne_scalar svmActive
        ((ClaimGroup.kind_of_decode decoded).symm.trans kind_eq)).elim
    · have listed := PositionMap.mem_positions_iff.mpr ⟨bytes, recorded⟩
      exact ⟨values.mem_positions_iff.mp listed, unclaimed⟩
  · rintro ⟨present, unclaimed⟩
    obtain ⟨bytes, recorded⟩ :=
      PositionMap.mem_positions_iff.mp (values.mem_positions_iff.mpr present)
    exact ⟨.scalar bytes,
      (get?_offerValues_iff claims).mpr (.inr ⟨unclaimed, bytes, recorded, rfl⟩), rfl⟩

theorem mem_positions_offerValues_iff :
    position ∈ (offerValues records.values claimed).positions ↔
      (∃ group : ClaimGroup, group.Has tree root enqueue position) ∨
        ∃ file, ValueMatches tree root position file := by
  rw [PositionMap.mem_positions_iff]
  constructor
  · rintro ⟨argument, held⟩
    rcases (get?_offerValues_iff claims).mp held with
      ⟨group, file, hit, _⟩ | ⟨_, bytes, recorded, _⟩
    · exact .inl ⟨group, file, hit⟩
    · have listed := PositionMap.mem_positions_iff.mpr ⟨bytes, recorded⟩
      exact .inr (values.mem_positions_iff.mp listed)
  · intro present
    by_cases has : ∃ group : ClaimGroup, group.Has tree root enqueue position
    · obtain ⟨group, has⟩ := has
      obtain ⟨argument, held, _⟩ :=
        Option.map_eq_some_iff.mp ((kind_offerValues_iff claims).mpr has)
      exact ⟨argument, held⟩
    · obtain ⟨argument, held, _⟩ := Option.map_eq_some_iff.mp
        ((scalar_offerValues_iff claims values).mpr
          ⟨present.resolve_left has, not_exists.mp has⟩)
      exact ⟨argument, held⟩

omit values

/-- A buffer or region was made from a file of its content and what is recorded for it. -/
theorem exists_buffer_of_offerValues {argument : Argument}
    (held : (offerValues records.values claimed).get? position = some argument)
    (shared : argument.kind = .buffer ∨ argument.kind = .svm) :
    ∃ preState, argument = records.buffer svmActive position preState := by
  rcases (get?_offerValues_iff claims).mp held with
    ⟨group, file, _, decoded⟩ | ⟨_, bytes, _, rfl⟩
  · have kind_eq := ClaimGroup.kind_of_decode decoded
    cases group with
    | buffer =>
        obtain ⟨content, _, rfl⟩ := Outcome.map_ok.mp decoded
        exact ⟨content, rfl⟩
    | _ => rcases shared with kind | kind <;> cases kind_eq.symm.trans kind
  · rcases shared with kind | kind <;> cases kind

theorem identity_of_offerValues {identity : Option Bytes} {preState : Bytes}
    (held : (offerValues records.values claimed).get? position =
        some (.buffer identity preState) ∨
      ∃ offset, (offerValues records.values claimed).get? position =
        some (.svm identity preState offset)) :
    identity = records.values.get? position := by
  rcases held with held | ⟨offset, held⟩
  · obtain ⟨content, made⟩ := exists_buffer_of_offerValues claims held (.inl rfl)
    cases svmActive <;> cases made
    rfl
  · obtain ⟨content, made⟩ := exists_buffer_of_offerValues claims held (.inr rfl)
    cases svmActive <;> cases made
    rfl

theorem offset_of_offerValues {identity : Option Bytes} {preState : Bytes} {offset : Nat}
    (held : (offerValues records.values claimed).get? position =
      some (.svm identity preState offset)) :
    offset = (records.offsets.get? position).getD 0 := by
  obtain ⟨content, made⟩ := exists_buffer_of_offerValues claims held (.inr rfl)
  cases svmActive <;> cases made
  rfl

end

end ArgumentTable

/-! ## The capture that is read -/

theorem Launch.read_ok {launch : Launch} (run : Launch.read tree root = .ok launch) :
    Enqueue.read tree root = .ok launch.enqueue := by
  obtain ⟨enqueue, enqueue_read, run⟩ := Outcome.bind_ok.mp run
  obtain ⟨_, _, run⟩ := Outcome.bind_ok.mp run
  obtain ⟨_, _, run⟩ := Outcome.bind_ok.mp run
  obtain ⟨_, _, run⟩ := Outcome.bind_ok.mp run
  obtain ⟨_, _, run⟩ := Outcome.bind_ok.mp run
  cases run
  exact enqueue_read

namespace Capture

/-- Whether the kinds of all arguments of a capture are those of the files in its directory. -/
structure Resolved (tree : FileTree) (root : Path) (options : ReadOptions) (capture : Capture) :
    Prop where
  /-- No two groups have files for one position. -/
  disjoint : ∀ (group other : ClaimGroup) position,
    group.Has tree root capture.launch.enqueue position →
      other.Has tree root capture.launch.enqueue position → group = other
  /-- Buffers are shared memory if that is asked for or some recorded offset is not zero. -/
  svmActive_iff : capture.svmActive = true ↔ options.forceSvm = true ∨
    ∃ position file offset, OffsetMatches tree root position file ∧
      HoldsOffset tree (root.child file) offset ∧ offset ≠ 0
  /-- There are arguments at exactly the positions of all files. -/
  domain : ∀ position, position ∈ capture.arguments.positions ↔
    (∃ group : ClaimGroup, group.Has tree root capture.launch.enqueue position) ∨
      ∃ file, ValueMatches tree root position file
  /-- An argument is of the kind of a group exactly if the group has a file for it. -/
  kind : ∀ (group : ClaimGroup) position,
    (capture.arguments.get? position).map Argument.kind = some (group.kind capture.svmActive) ↔
      group.Has tree root capture.launch.enqueue position
  /-- An argument is a plain value exactly if only a value is recorded for it. -/
  scalar : ∀ position, (capture.arguments.get? position).map Argument.kind = some .scalar ↔
    (∃ file, ValueMatches tree root position file) ∧
      ∀ group : ClaimGroup, ¬ group.Has tree root capture.launch.enqueue position
  /-- The token of a buffer or region is the value recorded for it, if there is one. -/
  identity : ∀ position identity preState,
    (capture.arguments.get? position = some (.buffer identity preState) ∨
      ∃ offset, capture.arguments.get? position = some (.svm identity preState offset)) →
    ∀ bytes, identity = some bytes ↔ ∃ file, ValueMatches tree root position file ∧
      tree.readFile (root.child file) = .ok bytes
  /-- Where buffers are shared memory, every recorded offset is for one of them. -/
  offsets : capture.svmActive = true → ∀ position file, OffsetMatches tree root position file →
    ClaimGroup.buffer.Has tree root capture.launch.enqueue position
  /-- The offset of a region is the one recorded for it, or else zero. -/
  offset : ∀ position identity preState offset,
    capture.arguments.get? position = some (.svm identity preState offset) →
      (∀ file, OffsetMatches tree root position file →
        HoldsOffset tree (root.child file) offset) ∧
      ((∀ file, ¬ OffsetMatches tree root position file) → offset = 0)

theorem read_parts {options : ReadOptions} {capture : Capture}
    (run : read tree root options = .ok capture) :
    capture.root = root ∧ Launch.read tree root = .ok capture.launch ∧
      ∃ records, ArgumentRecords.read tree root = .ok records ∧
        capture.svmActive = records.svmActive options ∧
        ArgumentTable.read tree root capture.launch.enqueue records capture.svmActive =
          .ok capture.arguments ∧
        Program.read tree root = .ok capture.program ∧
        capture.notices =
          records.notices options ++ ArgumentTable.imageNotices capture.arguments := by
  obtain ⟨launch, launch_read, run⟩ := Outcome.bind_ok.mp run
  obtain ⟨records, records_read, run⟩ := Outcome.bind_ok.mp run
  obtain ⟨table, table_read, run⟩ := Outcome.bind_ok.mp run
  obtain ⟨program, program_read, run⟩ := Outcome.bind_ok.mp run
  cases run
  exact ⟨rfl, launch_read, records, records_read, rfl, table_read, program_read, rfl⟩

theorem resolved_of_read {options : ReadOptions} {capture : Capture}
    (run : read tree root options = .ok capture) : Resolved tree root options capture := by
  obtain ⟨_, _, records, records_read, active_eq, table_read, _⟩ := read_parts run
  obtain ⟨values, offsets⟩ := ArgumentRecords.read_ok records_read
  obtain ⟨⟨claimed, claims, table_eq⟩, orphans⟩ := ArgumentTable.claimed_of_read table_read
  rw [active_eq] at claims orphans
  refine
    { disjoint := fun group other position =>
        claims.apart group group.mem_all other other.mem_all position
      svmActive_iff := ?_
      domain := fun position => ?_
      kind := fun group position => ?_
      scalar := fun position => ?_
      identity := fun position identity preState found bytes => ?_
      offsets := fun active position file hit => ?_
      offset := fun position identity preState offset found => ?_ }
  · rw [active_eq, ArgumentRecords.svmActive_iff_holdsOffset offsets]
  · rw [table_eq]
    exact ArgumentTable.mem_positions_offerValues_iff claims values
  · rw [table_eq, active_eq]
    exact ArgumentTable.kind_offerValues_iff claims
  · rw [table_eq]
    exact ArgumentTable.scalar_offerValues_iff claims values
  · rw [table_eq] at found
    rw [ArgumentTable.identity_of_offerValues claims found, values.answers]
    simp only [Artifact.bytes, Outcome.mapError_ok, ValueMatches]
  · exact orphans (active_eq ▸ active) position (offsets.mem_positions_iff.mpr ⟨file, hit⟩)
  · rw [table_eq] at found
    obtain rfl := ArgumentTable.offset_of_offerValues claims found
    exact ArgumentRecords.getD_offsets offsets position

/-- The content before the launch that was read for an argument is that of some file. -/
theorem exists_readFile_of_preState {options : ReadOptions} {capture : Capture}
    (run : read tree root options = .ok capture) {position : Nat} {argument : Argument}
    {content : Bytes} (held : capture.arguments.get? position = some argument)
    (memory : argument.preState? = some content) : ∃ path, tree.readFile path = .ok content := by
  obtain ⟨_, _, records, _, _, table_read, _⟩ := read_parts run
  obtain ⟨⟨claimed, claims, table_eq⟩, _⟩ := ArgumentTable.claimed_of_read table_read
  rw [table_eq] at held
  rcases (ArgumentTable.get?_offerValues_iff claims).mp held with
    ⟨group, file, _, decoded⟩ | ⟨_, bytes, _, rfl⟩
  · exact ⟨_, ClaimGroup.readFile_of_decode decoded memory⟩
  · cases memory

/-- A capture that was read is that of its directory and of the enqueue in its file. -/
theorem read_ok {options : ReadOptions} {capture : Capture}
    (run : read tree root options = .ok capture) :
    capture.root = root ∧ Enqueue.read tree root = .ok capture.launch.enqueue ∧
      InWords capture.arguments := by
  obtain ⟨root_eq, launch_read, _⟩ := read_parts run
  refine ⟨root_eq, Launch.read_ok launch_read, fun position argument held => ?_⟩
  have listed := PositionMap.mem_positions_iff.mpr ⟨argument, held⟩
  rcases ((resolved_of_read run).domain position).mp listed with ⟨_, _, hit⟩ | ⟨_, hit⟩
  · exact position?_lt hit.embeds
  · exact position?_lt hit.embeds

/-- What was read came from a directory. -/
theorem exists_reaches_of_read {options : ReadOptions} {capture : Capture}
    (run : read tree root options = .ok capture) : ∃ base, tree.Reaches root base := by
  obtain ⟨_, enqueue_read, _⟩ := read_ok run
  obtain ⟨text, text_read, _⟩ := Outcome.bind_ok.mp enqueue_read
  obtain ⟨base, reached, _⟩ := exists_reaches_of_text (by decide) text_read
  exact ⟨base, reached⟩

end Capture

end LaunchReplay
