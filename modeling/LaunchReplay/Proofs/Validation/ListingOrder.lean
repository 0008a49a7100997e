import LaunchReplay.Proofs.Validation.OtherEnqueues

/-!
# Listing order

File systems list directories in any order. Two trees that hold the same at every location, however
each of them lists its directories, are read alike: files are found in the same order, a position
that occurs twice is reported with the same two files, and captures and digests are the same.
-/

namespace LaunchReplay

open Artifact

namespace FileTree

/-- Whether two trees hold the same at every location, in whatever order each lists it. -/
structure Relisted (before after : FileTree) : Prop where
  /-- The same is at every location. -/
  entry?_eq : ∀ location, after.entry? location = before.entry? location
  /-- Relative paths start where they did. -/
  workingDirectory : after.workingDirectory = before.workingDirectory

namespace Relisted

variable {before after : FileTree}

/-- The same entries in another order. -/
theorem of_perm (same : after.entries.Perm before.entries)
    (started : after.workingDirectory = before.workingDirectory) : Relisted before after where
  entry?_eq location := by
    cases location with
    | nil => rfl
    | cons name rest =>
        refine Option.ext fun entry => ?_
        rw [entry?_eq_some_iff (by simp), entry?_eq_some_iff (by simp), same.mem_iff]
  workingDirectory := started

variable (relisted : Relisted before after)

include relisted

/-- Every directory lists the same names, in another order. -/
theorem namesAt_perm (location : Location) :
    (after.namesAt location).Perm (before.namesAt location) := by
  refine (List.perm_ext_iff_of_nodup (after.nodup_namesAt location)
    (before.nodup_namesAt location)).mpr fun name => ?_
  rw [mem_namesAt_iff, mem_namesAt_iff, relisted.entry?_eq]

theorem isDirectoryAt_eq (location : Location) :
    after.isDirectoryAt location = before.isDirectoryAt location := by
  rw [isDirectoryAt, isDirectoryAt, relisted.entry?_eq]

theorem follow_eq : after.follow = before.follow := by
  funext location segment
  simp only [follow, relisted.isDirectoryAt_eq, relisted.entry?_eq]

theorem resolve_eq (path : Path) : after.resolve path = before.resolve path := by
  simp only [resolve, walk, start, relisted.follow_eq, relisted.workingDirectory,
    relisted.isDirectoryAt_eq]

theorem lookup_eq (path : Path) : after.lookup path = before.lookup path := by
  simp only [lookup, relisted.resolve_eq, relisted.entry?_eq]

theorem isFile_eq (path : Path) : after.isFile path = before.isFile path := by
  simp only [isFile, relisted.lookup_eq]

theorem readFile_eq (path : Path) : after.readFile path = before.readFile path := by
  simp only [readFile, relisted.lookup_eq]

/-- Listing a directory fails for the same reason, or gives the same names in another order. -/
theorem list_cases (path : Path) :
    (∃ reason, before.list path = .error reason ∧ after.list path = .error reason) ∨
      ∃ listed other, before.list path = .ok listed ∧ after.list path = .ok other ∧
        other.Perm listed := by
  rw [list, list, relisted.resolve_eq]
  cases before.resolve path with
  | error reason => exact .inl ⟨reason, rfl, rfl⟩
  | ok location =>
      have same_directory := relisted.isDirectoryAt_eq location
      cases inside : before.isDirectoryAt location with
      | false =>
          rw [inside] at same_directory
          exact .inl ⟨.notDirectory, if_neg (by simp [inside]), if_neg (by simp [same_directory])⟩
      | true =>
          rw [inside] at same_directory
          exact .inr ⟨before.namesAt location, after.namesAt location, if_pos inside,
            if_pos same_directory, relisted.namesAt_perm location⟩

end Relisted

end FileTree

variable {before after : FileTree}

/-- The files that fit a pattern are found in the same order, with the same content. -/
theorem Artifact.sameFiles_of_relisted (relisted : before.Relisted after) (directory : Path)
    (pattern : FilePattern) : SameFiles after before directory pattern := by
  rcases relisted.list_cases directory with
    ⟨reason, listed, other_listed⟩ | ⟨listed, other, listed_eq, other_eq, same⟩
  · exact sameFiles_of_list_error reason other_listed listed
  · refine ⟨?_, fun _ _ name _ => relisted.readFile_eq _⟩
    rw [names, names, listed_eq, other_eq]
    simp only [relisted.isFile_eq]
    exact congrArg Except.ok (discoveryOrder_of_perm (same.filter _))

theorem sameCapture_of_relisted (relisted : before.Relisted after) (root : Path) :
    SameCapture after before root where
  fixed _ _ := relisted.readFile_eq _
  metadata _ := relisted.readFile_eq _
  found pattern _ := sameFiles_of_relisted relisted root pattern
  contents _ _ := ⟨sameFiles_of_relisted relisted _ _, sameFiles_of_relisted relisted _ _⟩

/-- Nothing that is read of a capture depends on the order in which directories are listed: neither
the files of a group and their order, nor their positions, nor the capture, nor the digests of
either side, and no error either. -/
theorem FileTree.Relisted.read_alike (relisted : before.Relisted after) :
    (∀ directory pattern, Artifact.paths after directory pattern =
      Artifact.paths before directory pattern) ∧
    (∀ directory pattern, Artifact.scan after directory pattern =
      Artifact.scan before directory pattern) ∧
    (∀ root options, Capture.read after root options = Capture.read before root options) ∧
    ∀ directory enqueue,
      DigestSet.replayed after directory enqueue = DigestSet.replayed before directory enqueue ∧
      DigestSet.captured after directory enqueue = DigestSet.captured before directory enqueue := by
  have same := sameFiles_of_relisted relisted
  refine ⟨fun directory pattern => ?_, fun directory pattern => (same directory pattern).scan_eq,
    fun root options => (sameCapture_of_relisted relisted root).read_eq options,
    fun directory enqueue => ⟨DigestSet.scan_congr fun kind => same directory _,
      DigestSet.scan_congr fun kind => same directory _⟩⟩
  rw [paths, paths, (same directory pattern).names]

/-- A capture directory with two device binaries and two captured outputs at one position. -/
def crowdedDirectory : FileTree where
  entries :=
    [(["cap"], .directory),
      (["cap", "enqueueNumber.txt"], .file (Bytes.ofText "1")),
      (["cap", "knlName.txt"], .file (Bytes.ofText "f")),
      (["cap", "buildOptions.txt"], .file []),
      (["cap", "worksizes.txt"], .file (Bytes.ofText "8\n0\n0")),
      (["cap", "DeviceBinary2.bin"], .file [2]),
      (["cap", "DeviceBinary10.bin"], .file [10]),
      (["cap", "Post"], .directory),
      (["cap", "Post", "Enqueue_0001_Kernel_f_Arg_0.bin"], .file [1]),
      (["cap", "Post", "Enqueue_0001_Kernel_f_Arg_00.bin"], .file [1])]
  unique := by decide
  workingDirectory := []

/-- The same directory, listed from its end. -/
def crowdedBackwards : FileTree where
  entries := crowdedDirectory.entries.reverse
  unique := by decide
  workingDirectory := []

theorem FileTree.Relisted.crowdedBackwards_read_alike :
    crowdedDirectory.Relisted crowdedBackwards ∧
      crowdedBackwards.list ⟨"cap/Post"⟩ ≠ crowdedDirectory.list ⟨"cap/Post"⟩ ∧
      Artifact.paths crowdedBackwards ⟨"cap"⟩ .deviceBinary =
        Artifact.paths crowdedDirectory ⟨"cap"⟩ .deviceBinary ∧
      Capture.read crowdedBackwards ⟨"cap"⟩ {} = Capture.read crowdedDirectory ⟨"cap"⟩ {} ∧
      Artifact.scan crowdedBackwards ⟨"cap/Post"⟩ (.post ⟨1⟩ .buffer) = .error (.duplicate 0
        ⟨"cap/Post/Enqueue_0001_Kernel_f_Arg_0.bin"⟩
        ⟨"cap/Post/Enqueue_0001_Kernel_f_Arg_00.bin"⟩) ∧
      DigestSet.captured crowdedBackwards ⟨"cap/Post"⟩ ⟨1⟩ =
        DigestSet.captured crowdedDirectory ⟨"cap/Post"⟩ ⟨1⟩ := by
  have relisted : crowdedDirectory.Relisted crowdedBackwards :=
    .of_perm (List.reverse_perm _) rfl
  obtain ⟨paths_eq, scan_eq, read_eq, digests_eq⟩ := read_alike relisted
  refine ⟨relisted, by decide +kernel, paths_eq _ _, read_eq _ _, ?_, (digests_eq _ _).2⟩
  have listed : crowdedDirectory.list ⟨"cap/Post"⟩ =
      .ok ["Enqueue_0001_Kernel_f_Arg_0.bin", "Enqueue_0001_Kernel_f_Arg_00.bin"] := by
    decide +kernel
  have kept : ["Enqueue_0001_Kernel_f_Arg_0.bin", "Enqueue_0001_Kernel_f_Arg_00.bin"].filter
      (fun name => crowdedDirectory.isFile (Path.child ⟨"cap/Post"⟩ name) &&
        (FilePattern.post ⟨1⟩ .buffer).fits name) =
      ["Enqueue_0001_Kernel_f_Arg_0.bin", "Enqueue_0001_Kernel_f_Arg_00.bin"] := by
    decide +kernel
  have ordered : discoveryOrder
      ["Enqueue_0001_Kernel_f_Arg_0.bin", "Enqueue_0001_Kernel_f_Arg_00.bin"] =
      ["Enqueue_0001_Kernel_f_Arg_0.bin", "Enqueue_0001_Kernel_f_Arg_00.bin"] :=
    List.mergeSort_of_pairwise (by decide +kernel)
  rw [scan_eq, scan, names, listed]
  simp only [kept, ordered]
  decide +kernel

end LaunchReplay
