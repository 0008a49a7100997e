import LaunchReplay.Capture.Launch
import LaunchReplay.Proofs.Capture.Scan
import LaunchReplay.Proofs.Naming.NumericOrder
import LaunchReplay.Proofs.Naming.OutputName

/-!
# Device binaries in their order

A capture without source text and without the intermediate form holds its device binaries, each file
of them once, in the order in which they are tried. That is numeric order as far as the numbers in
the names are 32-bit words.
-/

namespace LaunchReplay

open Naming (HasReadableNumber InOrderOf firstNumber readNumber)

/-- Whether bytes with a name are what a capture directory holds as a device binary. -/
structure NamedBlob.IsBinary (tree : FileTree) (root : Path) (blob : NamedBlob) : Prop where
  /-- The directory lists the name. -/
  listed : ∃ names, tree.list root = .ok names ∧ blob.name ∈ names
  /-- It is one of a device binary. -/
  named : ∃ middle, blob.name = "DeviceBinary" ++ middle ++ ".bin"
  /-- There is a file under it with these bytes. -/
  content : tree.readFile (root.child blob.name) = .ok blob.bytes

namespace Program

variable {tree : FileTree} {root : Path} {program : Program} {blobs : List NamedBlob}

theorem fits_deviceBinary_iff {name : String} :
    FilePattern.deviceBinary.fits name = true ↔
      ∃ middle, name = "DeviceBinary" ++ middle ++ ".bin" :=
  FilePattern.fits_iff_of_unmarked rfl

/-- The binaries that were read have the names that were found, and what is under each name. -/
theorem readBinaries_ok (run : readBinaries tree root = .ok blobs) :
    Artifact.names tree root .deviceBinary = .ok (blobs.map (·.name)) ∧
      ∀ blob ∈ blobs, tree.readFile (root.child blob.name) = .ok blob.bytes := by
  obtain ⟨found, listed, run⟩ := Outcome.bind_ok.mp run
  have related : List.Forall₂ (fun name (blob : NamedBlob) => name = blob.name ∧
      tree.readFile (root.child blob.name) = .ok blob.bytes) found blobs := by
    refine (Outcome.mapM_ok.mp run).imp fun name blob mapped => ?_
    obtain ⟨_, held, rfl⟩ := Outcome.map_ok.mp mapped
    exact ⟨rfl, Outcome.mapError_ok.mp held⟩
  have names_eq : found = blobs.map (·.name) := by
    rw [← List.forall₂_eq_eq_eq, List.forall₂_map_right_iff]
    exact related.imp fun _ _ both => both.1
  refine ⟨names_eq ▸ listed, fun blob blob_mem => ?_⟩
  obtain ⟨_, _, _, content⟩ := Outcome.exists_of_mem_of_forall₂ related blob_mem
  exact content

theorem mem_readBinaries_iff (run : readBinaries tree root = .ok blobs) {blob : NamedBlob} :
    blob ∈ blobs ↔ blob.IsBinary tree root := by
  obtain ⟨names, contents⟩ := readBinaries_ok run
  constructor
  · intro blob_mem
    obtain ⟨listed, _, fitting⟩ :=
      (Artifact.mem_names_iff_listed names).mp (List.mem_map_of_mem blob_mem)
    exact ⟨listed, fits_deviceBinary_iff.mp fitting, contents blob blob_mem⟩
  · rintro ⟨listed, named, content⟩
    have name_mem : blob.name ∈ blobs.map (·.name) := (Artifact.mem_names_iff_listed names).mpr
      ⟨listed, FileTree.isFile_iff.mpr ⟨_, content⟩, fits_deviceBinary_iff.mpr named⟩
    obtain ⟨other, other_mem, same_name⟩ := List.mem_map.mp name_mem
    have held := contents other other_mem
    rw [same_name, content] at held
    obtain ⟨name, bytes⟩ := blob
    obtain ⟨_, _⟩ := other
    cases same_name
    cases held
    exact other_mem

/-- Binaries are read in the order of the numbers in their names, as far as these are read. -/
theorem pairwise_readBinaries (run : readBinaries tree root = .ok blobs) :
    blobs.Pairwise fun left right => InOrderOf readNumber left.name right.name := by
  have sorted := Artifact.pairwise_names (readBinaries_ok run).1
  rw [List.pairwise_map] at sorted
  exact sorted.imp fun before => Naming.precedes_ofName_iff.mp before

theorem read_of_no_other (no_source : tree.isFile (root.child Naming.sourceFile) = false)
    (no_intermediate : tree.isFile (root.child Naming.intermediateFile) = false)
    (run : read tree root = .ok program) :
    ∃ blobs, readBinaries tree root = .ok blobs ∧ program = .binaries blobs := by
  rw [read, no_source, no_intermediate] at run
  obtain ⟨blobs, found, run⟩ := Outcome.bind_ok.mp run
  refine ⟨blobs, found, ?_⟩
  cases blobs with
  | nil => cases run
  | cons => exact (Except.ok.inj run).symm

/-- A capture without source text and the intermediate form holds each of its device binaries once,
ordered by the number that the first run of decimal digits in its name denotes, if that is a
numeral of ASCII digits for a 32-bit word, and then by the bytes of the name. Names with another run
of digits are among those without digits, which come first. -/
theorem binaries_in_numeric_order
    (no_source : tree.isFile (root.child Naming.sourceFile) = false)
    (no_intermediate : tree.isFile (root.child Naming.intermediateFile) = false)
    (run : read tree root = .ok program) :
    ∃ blobs, program = .binaries blobs ∧
      (∀ blob : NamedBlob, blob ∈ blobs ↔ blob.IsBinary tree root) ∧
      (blobs.map (·.name)).Nodup ∧
      (blobs.Pairwise fun left right =>
        HasReadableNumber left.name → HasReadableNumber right.name →
          InOrderOf firstNumber left.name right.name) ∧
      blobs.Pairwise fun left right => InOrderOf readNumber left.name right.name := by
  obtain ⟨blobs, found, rfl⟩ := read_of_no_other no_source no_intermediate run
  have sorted := pairwise_readBinaries found
  refine ⟨blobs, rfl, fun _ => mem_readBinaries_iff found,
    Artifact.nodup_of_names (readBinaries_ok found).1, ?_, sorted⟩
  exact sorted.imp fun ordered left_readable right_readable =>
    ordered.of_readable left_readable right_readable

/-- A capture directory with device binaries, and with a directory that has the name of one. -/
def numbered : FileTree :=
  ⟨[(["cap"], .directory),
    (["cap", "DeviceBinary10.bin"], .file [10]),
    (["cap", "DeviceBinary2.bin"], .file [2]),
    (["cap", "DeviceBinary1.bin"], .directory),
    (["cap", "DeviceBinary0002.bin"], .file [3]),
    (["cap", "DeviceBinary.bin"], .file [1]),
    (["cap", "DeviceBinary00000000000000000007a99999999999.bin"], .file [7])], by decide, []⟩

/-- The device binaries in that directory, in their order. -/
def numberedBinaries : List NamedBlob :=
  [⟨"DeviceBinary.bin", [1]⟩, ⟨"DeviceBinary0002.bin", [3]⟩, ⟨"DeviceBinary2.bin", [2]⟩,
    ⟨"DeviceBinary00000000000000000007a99999999999.bin", [7]⟩, ⟨"DeviceBinary10.bin", [10]⟩]

theorem read_numbered : read numbered ⟨"cap"⟩ = .ok (.binaries numberedBinaries) := by
  have listed : numbered.list ⟨"cap"⟩ = .ok ["DeviceBinary10.bin", "DeviceBinary2.bin",
      "DeviceBinary1.bin", "DeviceBinary0002.bin", "DeviceBinary.bin",
      "DeviceBinary00000000000000000007a99999999999.bin"] := by decide +kernel
  have names_eq : Artifact.names numbered ⟨"cap"⟩ .deviceBinary =
      .ok (numberedBinaries.map (·.name)) :=
    Artifact.names_eq_of_perm listed (by decide +kernel) (by decide +kernel)
  rw [read, readBinaries, names_eq]
  decide +kernel

theorem binaries_of_numbered_in_order :
    (∀ blob ∈ numberedBinaries, HasReadableNumber blob.name) ∧
      read numbered ⟨"cap"⟩ = .ok (.binaries numberedBinaries) ∧
      ∃ blobs, Program.binaries numberedBinaries = .binaries blobs ∧
        (∀ blob : NamedBlob, blob ∈ blobs ↔ blob.IsBinary numbered ⟨"cap"⟩) ∧
        (blobs.map (·.name)).Nodup ∧
        (blobs.Pairwise fun left right =>
          HasReadableNumber left.name → HasReadableNumber right.name →
            InOrderOf firstNumber left.name right.name) ∧
        blobs.Pairwise fun left right => InOrderOf readNumber left.name right.name :=
  ⟨by decide, read_numbered,
    binaries_in_numeric_order (by decide +kernel) (by decide +kernel) read_numbered⟩

/-- A capture directory with two device binaries, one under a number beyond 32 bits. -/
def overlongNumber : FileTree :=
  ⟨[(["cap"], .directory),
    (["cap", "DeviceBinary2.bin"], .file [2]),
    (["cap", "DeviceBinary4294967296.bin"], .file [3])], by decide, []⟩

/-- The binary under the larger number comes first. -/
theorem binaries_out_of_numeric_order :
    overlongNumber.isFile (Path.child ⟨"cap"⟩ Naming.sourceFile) = false ∧
      overlongNumber.isFile (Path.child ⟨"cap"⟩ Naming.intermediateFile) = false ∧
      read overlongNumber ⟨"cap"⟩ = .ok (.binaries
        [⟨"DeviceBinary4294967296.bin", [3]⟩, ⟨"DeviceBinary2.bin", [2]⟩]) ∧
      ¬ InOrderOf firstNumber "DeviceBinary4294967296.bin" "DeviceBinary2.bin" := by
  have listed : overlongNumber.list ⟨"cap"⟩ =
      .ok ["DeviceBinary2.bin", "DeviceBinary4294967296.bin"] := by decide +kernel
  have names_eq : Artifact.names overlongNumber ⟨"cap"⟩ .deviceBinary =
      .ok ["DeviceBinary4294967296.bin", "DeviceBinary2.bin"] :=
    Artifact.names_eq_of_perm listed (by decide +kernel) (by decide +kernel)
  have larger : firstNumber "DeviceBinary4294967296.bin" = (4294967296 : Nat) := by decide +kernel
  have smaller : firstNumber "DeviceBinary2.bin" = (2 : Nat) := by decide +kernel
  refine ⟨by decide +kernel, by decide +kernel, ?_, ?_⟩
  · rw [read, readBinaries, names_eq]
    decide +kernel
  · rw [InOrderOf, larger, smaller]
    decide

end Program

end LaunchReplay
