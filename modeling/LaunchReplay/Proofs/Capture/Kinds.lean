import LaunchReplay.Proofs.Capture.Read

/-!
# Kinds of arguments

The kinds of all arguments are those of the files, or else a capture cannot be read: two groups that
have files for one position clash, and where nothing else is wrong the error says so.
-/

namespace LaunchReplay

open Artifact

variable {tree : FileTree} {root : Path} {enqueue : Enqueue} {records : ArgumentRecords}
  {svmActive : Bool}

/-- If all that is needed can be read, there is no other error than a clash of two groups. -/
theorem ArgumentTable.clash_of_read (readable : Readable tree root enqueue records svmActive)
    {error : CaptureError} (run : read tree root enqueue records svmActive = .error error) :
    Clash tree root enqueue svmActive error := by
  rw [read_eq] at run
  rcases Outcome.bind_error.mp run with failed | ⟨withBuffers, buffers_claimed, run⟩
  · exact Claimed.clash claimed_nil readable failed
  have claimed := claimed_nil.next buffers_claimed
  have checked : checkPlaces root enqueue records svmActive withBuffers = .ok () :=
    checkPlaces_ok_iff.mpr fun active position recorded => claimed.mem_positions_iff.mpr
      ⟨.buffer, by simp, readable.offsets active position recorded⟩
  rcases Outcome.bind_error.mp run with failed | ⟨_, _, run⟩
  · cases checked.symm.trans failed
  rcases Outcome.bind_error.mp run with failed | ⟨withImages, images_claimed, run⟩
  · exact Claimed.clash claimed readable failed
  replace claimed := claimed.next images_claimed
  rcases Outcome.bind_error.mp run with failed | ⟨withSamplers, samplers_claimed, run⟩
  · exact Claimed.clash claimed readable failed
  replace claimed := claimed.next samplers_claimed
  rcases Outcome.bind_error.mp run with failed | ⟨withLocals, locals_claimed, run⟩
  · exact Claimed.clash claimed readable failed
  · cases run

namespace Capture

/-- Whether two groups have files for one position. -/
def Shared (tree : FileTree) (root : Path) (enqueue : Enqueue) : Prop :=
  ∃ (group other : ClaimGroup) (position : Nat), group ≠ other ∧
    group.Has tree root enqueue position ∧ other.Has tree root enqueue position

theorem error_of_shared {options : ReadOptions}
    (enqueue_read : Enqueue.read tree root = .ok enqueue) (shared : Shared tree root enqueue) :
    ∃ error, read tree root options = .error error := by
  obtain ⟨group, other, position, different, has, other_has⟩ := shared
  cases run : read tree root options with
  | error error => exact ⟨error, rfl⟩
  | ok capture =>
      obtain ⟨_, capture_enqueue, _⟩ := read_ok run
      obtain rfl := Except.ok.inj (enqueue_read.symm.trans capture_enqueue)
      exact (different ((resolved_of_read run).disjoint group other position has other_has)).elim

theorem clash_of_shared {options : ReadOptions} {launch : Launch}
    (launch_read : Launch.read tree root = .ok launch)
    (records_read : ArgumentRecords.read tree root = .ok records)
    (readable : ArgumentTable.Readable tree root launch.enqueue records
      (records.svmActive options))
    (shared : Shared tree root launch.enqueue) :
    ∃ error, read tree root options = .error error ∧
      ArgumentTable.Clash tree root launch.enqueue (records.svmActive options) error := by
  obtain ⟨group, other, position, different, has, other_has⟩ := shared
  have table_error : ∃ error, ArgumentTable.read tree root launch.enqueue records
      (records.svmActive options) = .error error := by
    cases run : ArgumentTable.read tree root launch.enqueue records
        (records.svmActive options) with
    | error error => exact ⟨error, rfl⟩
    | ok table =>
        obtain ⟨⟨claimed, claims, _⟩, _⟩ := ArgumentTable.claimed_of_read run
        exact (different (claims.apart group group.mem_all other other.mem_all position has
          other_has)).elim
  obtain ⟨error, run⟩ := table_error
  refine ⟨error, ?_, ArgumentTable.clash_of_read readable run⟩
  rw [read, launch_read]
  refine Outcome.bind_error.mpr (.inr ⟨launch, rfl, ?_⟩)
  refine Outcome.bind_error.mpr (.inr ⟨records, records_read, ?_⟩)
  exact Outcome.bind_error.mpr (.inl run)

/-- A capture that can be read has arguments of the kinds that the files in its directory say. One
in which two groups have files for one position cannot be read, and if nothing else is wrong with it
the error names the file that came second, the position and both kinds. -/
theorem kinds_resolved (tree : FileTree) (root : Path) (options : ReadOptions) :
    (∀ capture, read tree root options = .ok capture → Resolved tree root options capture) ∧
    (∀ enqueue, Enqueue.read tree root = .ok enqueue → Shared tree root enqueue →
      ∃ error, read tree root options = .error error) ∧
    ∀ launch records, Launch.read tree root = .ok launch →
      ArgumentRecords.read tree root = .ok records →
      ArgumentTable.Readable tree root launch.enqueue records (records.svmActive options) →
      Shared tree root launch.enqueue →
        ∃ error, read tree root options = .error error ∧
          ArgumentTable.Clash tree root launch.enqueue (records.svmActive options) error := by
  refine ⟨?_, ?_, ?_⟩
  · intro capture run
    exact resolved_of_read run
  · intro enqueue enqueue_read shared
    exact error_of_shared enqueue_read shared
  · intro launch records launch_read records_read readable shared
    exact clash_of_shared launch_read records_read readable shared

/-- A capture directory with one argument of each kind, with the sampler in a file of some name. -/
def kindsEntries (sampler : String) : List (Location × FileEntry) :=
  [(["cap"], .directory),
    (["cap", "enqueueNumber.txt"], .file (Bytes.ofText "1")),
    (["cap", "knlName.txt"], .file (Bytes.ofText "f")),
    (["cap", "buildOptions.txt"], .file []),
    (["cap", "worksizes.txt"], .file (Bytes.ofText "8\n0\n0")),
    (["cap", "kernel.cl"], .file (Bytes.ofText "f")),
    (["cap", "SVM_Arg_Offset0.txt"], .file (Bytes.ofText "4")),
    (["cap", "Image_MetaData_1.txt"],
      .file (Bytes.ofText "1\n0\n0\n0\n0\n0\n0x10B0\n0x10D2\n0x10F4")),
    (["cap", sampler], .file (Bytes.ofText "TRUE")),
    (["cap", "Local3.txt"], .file (Bytes.ofText "16")),
    (["cap", "Argument4.bin"], .file [7]),
    (["cap", "Pre"], .directory),
    (["cap", "Pre", "Enqueue_0001_Kernel_f_Arg_0_Buffer.bin"], .file [1, 2]),
    (["cap", "Pre", "Enqueue_0001_Kernel_f_Arg_1_Image.raw"], .file [4])]

/-- The directory where the sampler has a position of its own. -/
def apartKinds : FileTree := ⟨kindsEntries "Sampler2.txt", by decide, []⟩

/-- The directory where the sampler has the position of the buffer. -/
def sharedKinds : FileTree := ⟨kindsEntries "Sampler0.txt", by decide, []⟩

/-- What is recorded in both directories. -/
def kindsRecords : ArgumentRecords := ⟨.ofList [(4, [7])], .ofList [(0, 4)]⟩

/-- The files of a group in the directory where two groups share a position. -/
def sharedKindsFiles : ClaimGroup → PositionMap Path
  | .buffer => .ofList [(0, ⟨"cap/Pre/Enqueue_0001_Kernel_f_Arg_0_Buffer.bin"⟩)]
  | .image => .ofList [(1, ⟨"cap/Pre/Enqueue_0001_Kernel_f_Arg_1_Image.raw"⟩)]
  | .sampler => .ofList [(0, ⟨"cap/Sampler0.txt"⟩)]
  | .localMemory => .ofList [(3, ⟨"cap/Local3.txt"⟩)]

theorem scan_sharedKinds (group : ClaimGroup) :
    scan sharedKinds (group.directory ⟨"cap"⟩) (group.pattern ⟨1⟩) =
      .ok (sharedKindsFiles group) := by
  cases group <;> decide +kernel

theorem sharedKinds_shared : Shared sharedKinds ⟨"cap"⟩ ⟨1⟩ := by
  refine ⟨.buffer, .sampler, 0, nofun, ?_, ?_⟩
  · exact (ClaimGroup.has_iff_mem_positions (scan_sharedKinds .buffer)).mpr (by decide)
  · exact (ClaimGroup.has_iff_mem_positions (scan_sharedKinds .sampler)).mpr (by decide)

theorem sharedKinds_readable :
    ArgumentTable.Readable sharedKinds ⟨"cap"⟩ ⟨1⟩ kindsRecords true where
  decodes group := by
    refine ⟨_, scan_sharedKinds group, fun position path found => ?_⟩
    rw [PositionMap.get?_eq_some_iff] at found
    have decoded : ∀ entry ∈ (sharedKindsFiles group).entries,
        (group.decode sharedKinds ⟨"cap"⟩ kindsRecords true entry.1 entry.2).isOk := by
      cases group <;> decide +kernel
    exact Outcome.isOk_iff_exists.mp (decoded (position, path) found)
  offsets _ position recorded := by
    obtain rfl : position = 0 := List.mem_singleton.mp recorded
    exact (ClaimGroup.has_iff_mem_positions (scan_sharedKinds .buffer)).mpr (by decide)

theorem apartKinds_resolved_sharedKinds_refused :
    (∃ capture, read apartKinds ⟨"cap"⟩ {} = .ok capture ∧
      capture.arguments.map Argument.kind =
        .ofList [(0, .svm), (1, .image), (2, .sampler), (3, .localMemory), (4, .scalar)] ∧
      Resolved apartKinds ⟨"cap"⟩ {} capture) ∧
    (∃ error, read sharedKinds ⟨"cap"⟩ {} = .error error) ∧
    ∃ error, read sharedKinds ⟨"cap"⟩ {} = .error error ∧
      ArgumentTable.Clash sharedKinds ⟨"cap"⟩ ⟨1⟩ true error := by
  refine ⟨?_, ?_, ?_⟩
  · have accepted : (read apartKinds ⟨"cap"⟩ {}).toOption.map (·.arguments.map Argument.kind) =
        some (.ofList
          [(0, .svm), (1, .image), (2, .sampler), (3, .localMemory), (4, .scalar)]) := by
      decide +kernel
    obtain ⟨capture, run, kinds_eq⟩ := Option.map_eq_some_iff.mp accepted
    have run := Outcome.toOption_eq_some_iff.mp run
    exact ⟨capture, run, kinds_eq, (kinds_resolved apartKinds ⟨"cap"⟩ {}).1 capture run⟩
  · exact (kinds_resolved sharedKinds ⟨"cap"⟩ {}).2.1 ⟨1⟩ (by decide +kernel) sharedKinds_shared
  · exact (kinds_resolved sharedKinds ⟨"cap"⟩ {}).2.2 ⟨⟨1⟩, "f", [], ⟨[8], [0], [0]⟩⟩ kindsRecords
      (by decide +kernel) (by decide +kernel) sharedKinds_readable sharedKinds_shared

end Capture

end LaunchReplay
