import LaunchReplay.Proofs.Capture.Read
import LaunchReplay.Proofs.Capture.Discovery
import LaunchReplay.Proofs.Naming.OutputName

/-!
# What reading a capture looks at

Some files are read by fixed names, the others are found by patterns in the capture directory and in
its directory of contents before the launch. Two trees that agree on all of these give the same
capture, or fail with the same error, whatever else is in them.
-/

namespace LaunchReplay

open Artifact

/-! ## Names that are looked for -/

namespace Naming

/-- The files that are read by a fixed name. -/
def fixedFiles : List String :=
  [kernelNameFile, buildOptionsFile, workSizesFile, enqueueNumberFile, sourceFile,
    intermediateFile, argumentTypesFile]

/-- The patterns of files that are directly in a capture directory. -/
def rootPatterns : List FilePattern :=
  [.argument, .localMemory, .sampler, .svmOffset, .deviceBinary]

/-- Whether a name directly in a capture directory matters for what is read. -/
inductive Matters : String → Prop
  /-- A file with a fixed name. -/
  | fixed {name : String} (listed : name ∈ fixedFiles) : Matters name
  /-- The metadata of an image. -/
  | metadata (position : Nat) : Matters (imageMetadataName position)
  /-- The directory of contents before the launch. -/
  | preDirectory : Matters preDirectory
  /-- A file that is found by a pattern. -/
  | found {name : String} {pattern : FilePattern} (listed : pattern ∈ rootPatterns)
      (fitting : pattern.fits name = true) : Matters name

/-- The characters of the name of an image's metadata. -/
theorem toList_imageMetadataName (position : Nat) : (imageMetadataName position).toList =
    "Image_MetaData_".toList ++ (Nat.toDigits 10 position ++ ".txt".toList) := by
  -- Opened by computation, since the definition's equation is slow to derive.
  change ("Image_MetaData_" ++ Text.decimal position ++ ".txt").toList = _
  simp

/-- The letters with which the names start that matter. -/
theorem Matters.exists_letter {name : String} (matters : Matters name) :
    ∃ letter ∈ "kbweAILSDP".toList, ∃ rest, name.toList = letter :: rest := by
  cases matters with
  | fixed listed =>
      simp only [fixedFiles, List.mem_cons, List.not_mem_nil, or_false] at listed
      rcases listed with rfl | rfl | rfl | rfl | rfl | rfl | rfl <;>
        exact ⟨_, by decide, _, rfl⟩
  | metadata position =>
      exact ⟨'I', by decide, _, toList_imageMetadataName position⟩
  | preDirectory => exact ⟨'P', by decide, _, rfl⟩
  | found listed fitting =>
      obtain ⟨rest, split⟩ := (FilePattern.affixes_of_fits fitting).1
      simp only [rootPatterns, List.mem_cons, List.not_mem_nil, or_false] at listed
      rcases listed with rfl | rfl | rfl | rfl | rfl <;> exact ⟨_, by decide, _, split.symm⟩

theorem isName_imageMetadataName (position : Nat) : Path.IsName (imageMetadataName position) := by
  refine ⟨?_, ?_, ?_, ?_⟩ <;> rw [toList_imageMetadataName]
  · simp
  · simp [slash_notMem_toDigits]
  · simp
  · simp

end Naming

/-! ## Captures that are read alike -/

/-- Whether two trees have the same files for all that reading a capture looks at. -/
structure SameCapture (left right : FileTree) (root : Path) : Prop where
  /-- What is read by a fixed name. -/
  fixed : ∀ name ∈ Naming.fixedFiles,
    left.readFile (root.child name) = right.readFile (root.child name)
  /-- The metadata of images. -/
  metadata : ∀ position, left.readFile (root.child (Naming.imageMetadataName position)) =
    right.readFile (root.child (Naming.imageMetadataName position))
  /-- What is found in the directory. -/
  found : ∀ pattern ∈ Naming.rootPatterns, SameFiles left right root pattern
  /-- What is found of the contents before the launch. -/
  contents : ∀ enqueue, Enqueue.read right root = .ok enqueue →
    SameFiles left right (root.child Naming.preDirectory) (.preBuffer enqueue) ∧
      SameFiles left right (root.child Naming.preDirectory) (.preImage enqueue)

namespace SameCapture

variable {left right : FileTree} {root : Path} (same : SameCapture left right root)

include same

theorem text_eq (name : String) (listed : name ∈ Naming.fixedFiles) :
    Artifact.text left (root.child name) = Artifact.text right (root.child name) :=
  text_congr (same.fixed name listed)

theorem enqueue_eq : Enqueue.read left root = Enqueue.read right root := by
  rw [Enqueue.read, Enqueue.read, same.text_eq Naming.enqueueNumberFile (by decide)]

theorem launch_eq : Launch.read left root = Launch.read right root := by
  simp only [Launch.read, same.enqueue_eq,
    same.text_eq Naming.kernelNameFile (by decide),
    same.text_eq Naming.buildOptionsFile (by decide),
    same.text_eq Naming.workSizesFile (by decide)]

theorem records_eq : ArgumentRecords.read left root = ArgumentRecords.read right root := by
  have values := same.found .argument (by decide)
  have offsets := same.found .svmOffset (by decide)
  rw [ArgumentRecords.read, ArgumentRecords.read]
  refine Outcome.bind_congr values.scan_eq fun valueFiles values_scanned => ?_
  have same_values : valueFiles.traverse (fun _ path => bytes left path) =
      valueFiles.traverse fun _ path => bytes right path :=
    PositionMap.traverse_congr fun entry listed =>
      bytes_congr (values.readFile_eq values_scanned listed)
  refine Outcome.bind_congr same_values fun read _ => ?_
  refine Outcome.bind_congr offsets.scan_eq fun offsetFiles offsets_scanned => ?_
  have same_offsets : offsetFiles.traverse (fun _ => ArgumentRecords.readOffset left) =
      offsetFiles.traverse fun _ => ArgumentRecords.readOffset right := by
    refine PositionMap.traverse_congr fun entry listed => ?_
    rw [ArgumentRecords.readOffset, ArgumentRecords.readOffset,
      text_congr (offsets.readFile_eq offsets_scanned listed)]
  exact Outcome.bind_congr same_offsets fun _ _ => rfl

theorem groupFiles {enqueue : Enqueue} (read : Enqueue.read right root = .ok enqueue)
    (group : ClaimGroup) :
    SameFiles left right (group.directory root) (group.pattern enqueue) := by
  cases group with
  | buffer => exact (same.contents enqueue read).1
  | image => exact (same.contents enqueue read).2
  | sampler => exact same.found .sampler (by decide)
  | localMemory => exact same.found .localMemory (by decide)

theorem decode_eq (records : ArgumentRecords) (svmActive : Bool) (group : ClaimGroup)
    (position : Nat) {path : Path} (held : left.readFile path = right.readFile path) :
    group.decode left root records svmActive position path =
      group.decode right root records svmActive position path := by
  cases group with
  | buffer => exact congrArg (Except.map _) (bytes_congr held)
  | image =>
      rw [ClaimGroup.decode, ClaimGroup.decode, ArgumentTable.readImage, ArgumentTable.readImage,
        bytes_congr held, text_congr (same.metadata position)]
  | sampler => exact Outcome.bind_congr (text_congr held) fun _ _ => rfl
  | localMemory => exact Outcome.bind_congr (text_congr held) fun _ _ => rfl

theorem claimGroup_eq {enqueue : Enqueue} (read : Enqueue.read right root = .ok enqueue)
    (records : ArgumentRecords) (svmActive : Bool) (group : ClaimGroup) (table : ArgumentTable) :
    ArgumentTable.claimGroup left root enqueue records svmActive group table =
      ArgumentTable.claimGroup right root enqueue records svmActive group table := by
  have files := same.groupFiles read group
  refine Outcome.bind_congr files.scan_eq fun found scanned => ?_
  refine Outcome.foldlM_congr (fun entry listed claimed => ?_) table
  rw [same.decode_eq records svmActive group entry.1 (files.readFile_eq scanned listed)]

theorem arguments_eq {enqueue : Enqueue} (read : Enqueue.read right root = .ok enqueue)
    (records : ArgumentRecords) (svmActive : Bool) :
    ArgumentTable.read left root enqueue records svmActive =
      ArgumentTable.read right root enqueue records svmActive := by
  simp only [ArgumentTable.read_eq, same.claimGroup_eq read]

theorem program_eq : Program.read left root = Program.read right root := by
  have binaries := same.found .deviceBinary (by decide)
  have source := same.fixed Naming.sourceFile (by decide)
  have intermediate := same.fixed Naming.intermediateFile (by decide)
  have read_binaries : Program.readBinaries left root = Program.readBinaries right root := by
    refine Outcome.bind_congr binaries.names fun names found => ?_
    refine Outcome.mapM_congr fun name listed => ?_
    rw [bytes_congr (binaries.contents names found name listed)]
  rw [Program.read, Program.read, isFile_congr source, text_congr source,
    isFile_congr intermediate, bytes_congr intermediate, read_binaries]

/-- Trees with the same files for all that is looked at give the same capture or error. -/
theorem read_eq (options : ReadOptions) :
    Capture.read left root options = Capture.read right root options := by
  rw [Capture.read, Capture.read]
  refine Outcome.bind_congr same.launch_eq fun launch launch_read => ?_
  refine Outcome.bind_congr same.records_eq fun records _ => ?_
  refine Outcome.bind_congr
    (same.arguments_eq (Launch.read_ok launch_read) records _) fun arguments _ => ?_
  exact Outcome.bind_congr same.program_eq fun _ _ => rfl

end SameCapture

/-- Trees in which a capture directory is in the same place have the same capture in it, if they
agree on all names there that matter, and on the contents before the launch of the captured
enqueue. -/
theorem sameCapture_of_entries {left right : FileTree} {root : Path} {base : Location}
    (right_formed : right.WellFormed) (left_reached : left.Reaches root base)
    (right_reached : right.Reaches root base)
    (top : ∀ name, Naming.Matters name →
      left.entry? (base ++ [name]) = right.entry? (base ++ [name]))
    (inner : ∀ enqueue, Enqueue.read right root = .ok enqueue → ∀ name,
      (FilePattern.preBuffer enqueue).fits name = true ∨
          (FilePattern.preImage enqueue).fits name = true →
        left.entry? (base ++ [Naming.preDirectory] ++ [name]) =
          right.entry? (base ++ [Naming.preDirectory] ++ [name])) :
    SameCapture left right root := by
  have same_read : ∀ name, Naming.Matters name → Path.IsName name →
      left.readFile (root.child name) = right.readFile (root.child name) := by
    intro name matters named
    rw [FileTree.readFile, FileTree.readFile,
      lookup_child_congr left_reached right_reached named (top name matters)]
  refine ⟨fun name listed => ?_, fun position => ?_, fun pattern listed => ?_,
    fun enqueue read => ?_⟩
  · have named : ∀ name ∈ Naming.fixedFiles, Path.IsName name := by decide
    exact same_read name (.fixed listed) (named name listed)
  · exact same_read _ (.metadata position) (Naming.isName_imageMetadataName position)
  · exact sameFiles_of_reaches right_formed left_reached right_reached
      fun name fitting => top name (.found listed fitting)
  · have named : Path.IsName Naming.preDirectory := by decide
    have top_pre := top _ .preDirectory
    have same_files : ∀ pattern : FilePattern, (∀ name, pattern.fits name = true →
        (FilePattern.preBuffer enqueue).fits name = true ∨
          (FilePattern.preImage enqueue).fits name = true) →
        SameFiles left right (root.child Naming.preDirectory) pattern := by
      intro pattern covered
      refine sameFiles_of_resolve right_formed
        (resolve_child_congr left_reached right_reached named top_pre)
        fun location resolved => ?_
      obtain rfl := FileTree.eq_of_walk_child right_reached named (walked_of_resolve resolved)
      refine ⟨?_, fun name fitting => inner enqueue read name (covered name fitting)⟩
      rw [FileTree.isDirectoryAt, FileTree.isDirectoryAt, top_pre]
    exact ⟨same_files _ fun _ => .inl, same_files _ fun _ => .inr⟩

end LaunchReplay
