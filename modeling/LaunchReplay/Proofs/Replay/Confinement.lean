import LaunchReplay.Proofs.Capture.Read
import LaunchReplay.Proofs.FileTree.Confinement
import LaunchReplay.Proofs.Replay.Writing
import LaunchReplay.Simulator.Basic
import LaunchReplay.Simulator.Script

/-!
# Where a replay writes

Outputs are written below the directory of outputs as long as the name of the kernel does not lead
upwards. A kernel name with two dots between slashes leads to files beside that directory.
-/

namespace LaunchReplay

namespace Naming

variable (enqueue : Enqueue) (kernel : String) (position : Nat) (kind : OutputKind)

theorem outputName_eq : outputName enqueue kernel position kind =
    enqueue.fileStart ++ "Kernel_" ++ kernel ++
      ("_Arg_" ++ Text.decimal position ++ "_" ++ kind.label ++ kind.extension) := by
  simp [outputName, String.append_assoc]

theorem exists_toList_outputName :
    ∃ rest, (outputName enqueue kernel position kind).toList = 'E' :: rest := by
  simp [outputName, Enqueue.fileStart]

theorem getLast?_outputName :
    (outputName enqueue kernel position kind).toList.getLast? ≠ some '.' := by
  rw [toList_outputName, List.getLast?_append, FilePattern.getLast?_test_ending, Option.some_or]
  cases kind <;> decide

variable {kernel}

/-- The name of an output leads upwards only if the name of the kernel does. -/
theorem up_notMem_outputName (tame : ¬ Path.Climbs kernel) :
    .up ∉ (Path.mk (outputName enqueue kernel position kind)).segments := by
  intro up
  obtain ⟨rest, shape⟩ := exists_toList_outputName enqueue kernel position kind
  have climbs := Path.climbs_of_up_mem up (by simp [shape]) (getLast?_outputName _ _ _ _)
  have front_plain : '/' ∉ (enqueue.fileStart ++ "Kernel_").toList := by
    simp [Enqueue.fileStart, slash_notMem_padded]
  have back_plain : '/' ∉
      ("_Arg_" ++ Text.decimal position ++ "_" ++ kind.label ++ kind.extension).toList := by
    have digits := slash_notMem_toDigits position
    cases kind <;> simp [digits, OutputKind.label, OutputKind.extension]
  rw [outputName_eq] at climbs
  exact tame (Path.climbs_of_climbs_append front_plain back_plain climbs)

end Naming

open FileTree

namespace Output

variable {tree : FileTree} {root directory : Path} {base : Location} {inner : List PathSegment}
  {enqueue : Enqueue} {kernelName : String}

theorem segments_fileName_ne_nil (enqueue : Enqueue) (kernelName : String) (output : Output) :
    (Path.mk (output.fileName enqueue kernelName)).segments ≠ [] := by
  obtain ⟨rest, shape⟩ :=
    Naming.exists_toList_outputName enqueue kernelName output.position output.kind
  exact Path.segments_ne_nil shape (by decide)

/-- The path of an output goes on from the directory of outputs. -/
theorem goesOn_path (directory : Path) (enqueue : Enqueue) (kernelName : String)
    (output : Output) :
    GoesOn directory (Path.mk (output.fileName enqueue kernelName)).segments
      (output.path directory enqueue kernelName) := by
  obtain ⟨rest, shape⟩ :=
    Naming.exists_toList_outputName enqueue kernelName output.position output.kind
  have relative : (Path.mk (output.fileName enqueue kernelName)).isAbsolute = false := by
    simp [Path.isAbsolute, fileName, shape]
  exact GoesOn.join relative

variable (reached : tree.Reaches root base) (goes_on : GoesOn root inner directory)
  (descends : .up ∉ inner) (tame : ¬ Path.Climbs kernelName)

include reached goes_on descends tame

/-- However many outputs are written before one fails, they are all below the directory. -/
theorem writeEach_confined (outputs : List Output) :
    Confined (base ++ inner.filterMap PathSegment.name?) tree
      (writeEach directory enqueue kernelName tree outputs).2 := by
  induction outputs generalizing tree with
  | nil => exact .refl _ tree
  | cons output rest induction =>
      rw [writeEach_cons]
      split
      · exact .refl _ tree
      · rename_i written wrote
        have stays : .up ∉ (Path.mk (output.fileName enqueue kernelName)).segments :=
          Naming.up_notMem_outputName enqueue output.position output.kind tame
        have one : Confined _ tree written :=
          writeFile_confined reached
            (goes_on.trans (goesOn_path directory enqueue kernelName output))
            (segments_fileName_ne_nil enqueue kernelName output)
            (by simp [descends, stays]) wrote
        -- The directory is reached again after a file was written, so the others go there too.
        have all := one.trans (induction (one.toKeeps.reaches reached))
        split
        · rename_i run
          rwa [run] at all
        · rename_i run
          rwa [run] at all

theorem writeAll_confined (outputs : List Output) :
    Confined (base ++ inner.filterMap PathSegment.name?) tree
      (writeAll directory enqueue kernelName outputs tree).2 := by
  have made := (ensureDirectories_leads reached goes_on descends).confined
  rw [writeAll]
  split
  · rename_i ensured
    rwa [ensured] at made
  · rename_i ensured
    rw [ensured] at made
    exact made.trans
      (writeEach_confined (made.toKeeps.reaches reached) goes_on descends tame outputs)

end Output

namespace Replay

variable {σ : Type} [Device σ] {config : ReplayConfig} {tree : FileTree} {root : Path}
  {base : Location} {capture : Capture} {device : σ}

theorem write_confined (reached : tree.Reaches capture.root base)
    (relative : config.testDirectory.isAbsolute = false)
    (descends : .up ∉ config.testDirectory.segments)
    (tame : ¬ Path.Climbs capture.launch.kernelName) (outputs : List Output) :
    Confined (base ++ config.testDirectory.names) tree (write config capture outputs tree).2 := by
  rw [write]
  split
  · have written : Confined _ tree (Output.writeAll (capture.root.join config.testDirectory)
        capture.launch.enqueue capture.launch.kernelName outputs tree).2 :=
      Output.writeAll_confined reached (.join relative) descends tame outputs
    split
    · rename_i run
      rwa [run] at written
    · rename_i run
      rwa [run] at written
  · exact .refl _ tree

theorem replay_confined (reached : tree.Reaches capture.root base)
    (relative : config.testDirectory.isAbsolute = false)
    (descends : .up ∉ config.testDirectory.segments)
    (tame : ¬ Path.Climbs capture.launch.kernelName) :
    Confined (base ++ config.testDirectory.names) tree (replay config capture tree device).2.1 := by
  rw [replay]
  split
  · exact .refl _ tree
  · rename_i replayed used _
    have written := write_confined reached relative descends tame replayed.outputs
    split
    · rename_i run
      rwa [run] at written
    · rename_i run
      rwa [run] at written

/-- A replay of a kernel whose name does not lead upwards changes nothing but what is below the
directory of outputs, whether or not it succeeds, and makes that directory with those above it that
are missing. Where there is no capture directory it changes nothing. -/
theorem run_confined (config : ReplayConfig) (root : Path) (tree : FileTree) (device : σ)
    (relative : config.testDirectory.isAbsolute = false)
    (descends : .up ∉ config.testDirectory.segments)
    (tame : ∀ capture, Capture.read tree root ⟨config.forceSvm⟩ = .ok capture →
      ¬ Path.Climbs capture.launch.kernelName) :
    (∀ base, tree.Reaches root base →
        Confined (base ++ config.testDirectory.names) tree (run config root tree device).2.1) ∧
      ((¬ ∃ base, tree.Reaches root base) → (run config root tree device).2.1 = tree) := by
  cases read : Capture.read tree root ⟨config.forceSvm⟩ with
  | error reason =>
      have unchanged : (run config root tree device).2.1 = tree := by
        unfold run
        rw [read]
      rw [unchanged]
      exact ⟨fun base _ => .refl _ tree, fun _ => rfl⟩
  | ok capture =>
      have replayed : run config root tree device = replay config capture tree device := by
        unfold run
        rw [read]
      obtain ⟨rfl, _⟩ := Capture.read_ok read
      rw [replayed]
      exact ⟨fun base reached => replay_confined reached relative descends (tame capture read),
        fun nowhere => absurd (Capture.exists_reaches_of_read read) nowhere⟩

/-- The entries of a capture directory of one buffer, where there is a directory with the name of an
output up to a slash. -/
def slashedEntries (kernelName : String) : List (Location × FileEntry) :=
  [(["cap"], .directory),
    (["cap", "enqueueNumber.txt"], .file (Bytes.ofText "1")),
    (["cap", "knlName.txt"], .file (Bytes.ofText kernelName)),
    (["cap", "buildOptions.txt"], .file []),
    (["cap", "worksizes.txt"], .file (Bytes.ofText "8\n0\n0")),
    (["cap", "kernel.cl"], .file (Bytes.ofText kernelName)),
    (["cap", "Pre"], .directory),
    (["cap", "Pre", "Enqueue_0001_Kernel_f_Arg_0_Buffer.bin"], .file [1, 2]),
    (["cap", "Test"], .directory),
    (["cap", "Test", "Enqueue_0001_Kernel_x"], .directory)]

/-- A capture directory with a kernel name that leads down only. -/
def slashed : FileTree := ⟨slashedEntries "x/f", by decide, []⟩

/-- A capture directory with a kernel name that leads up to the contents before the launch. -/
def climbing : FileTree := ⟨slashedEntries "x/../../Pre/Enqueue_0001_Kernel_f", by decide, []⟩

/-- A device on which every kernel adds one to each byte of its first buffer. -/
def addingDevice : Simulator (List Simulator.Probe) :=
  .new ⟨fun _ => some (Simulator.scripted [.add 0 1]), fun _ => none, true⟩ []

theorem run_slashed_confined :
    (run {} ⟨"cap"⟩ slashed addingDevice).1.isOk ∧
      Confined (["cap"] ++ (Path.mk Naming.testDirectory).names) slashed
        (run {} ⟨"cap"⟩ slashed addingDevice).2.1 := by
  have named : (Capture.read slashed ⟨"cap"⟩ {}).toOption.map (·.launch.kernelName) =
      some "x/f" := by decide +kernel
  have tame : ∀ capture, Capture.read slashed ⟨"cap"⟩ {} = .ok capture →
      ¬ Path.Climbs capture.launch.kernelName := by
    intro capture read
    rw [read] at named
    have kernel_eq : capture.launch.kernelName = "x/f" := Option.some.inj named
    rw [kernel_eq]
    decide
  have reached : slashed.Reaches ⟨"cap"⟩ ["cap"] := ⟨by decide, by decide⟩
  have confined := run_confined {} ⟨"cap"⟩ slashed addingDevice (by decide) (by decide) tame
  exact ⟨by decide +kernel, confined.1 ["cap"] reached⟩

/-- A replay that overwrites the content before the launch, beside the directory of outputs. -/
theorem run_climbing_not_confined :
    climbing.Reaches ⟨"cap"⟩ ["cap"] ∧
      climbing.entry? ["cap", "Pre", "Enqueue_0001_Kernel_f_Arg_0_Buffer.bin"] =
        some (.file [1, 2]) ∧
      FileTree.entry? (run {} ⟨"cap"⟩ climbing addingDevice).2.1
        ["cap", "Pre", "Enqueue_0001_Kernel_f_Arg_0_Buffer.bin"] = some (.file [2, 3]) ∧
      ¬ Confined (["cap"] ++ (Path.mk Naming.testDirectory).names) climbing
        (run {} ⟨"cap"⟩ climbing addingDevice).2.1 := by
  have before : climbing.entry? ["cap", "Pre", "Enqueue_0001_Kernel_f_Arg_0_Buffer.bin"] =
      some (.file [1, 2]) := by decide
  have after : FileTree.entry? (run {} ⟨"cap"⟩ climbing addingDevice).2.1
      ["cap", "Pre", "Enqueue_0001_Kernel_f_Arg_0_Buffer.bin"] = some (.file [2, 3]) := by
    decide +kernel
  refine ⟨⟨by decide, by decide⟩, before, after, fun confined => ?_⟩
  rcases confined.outside ["cap", "Pre", "Enqueue_0001_Kernel_f_Arg_0_Buffer.bin"] (by decide) with
    same | ⟨leads, _⟩
  · rw [before, after] at same
    cases same
  · exact absurd leads (by decide)

end Replay

end LaunchReplay
