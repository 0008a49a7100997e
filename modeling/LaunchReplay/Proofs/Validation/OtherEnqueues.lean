import LaunchReplay.Proofs.Capture.Frame
import LaunchReplay.Proofs.FileTree.Alike
import LaunchReplay.Proofs.Naming.FileStart
import LaunchReplay.Proofs.Validation.IdleReplay

/-!
# Captures of other enqueues

Captures of several enqueues may share one directory. The files of another enqueue fit no pattern of
the captured one and have none of the fixed names, so whatever is done to them, the capture is read
as before and its outputs are compared as before.
-/

namespace LaunchReplay

open Artifact FileTree

variable {left right before after : FileTree} {root : Path} {enqueue other : Enqueue}

/-! ## Comparing the same files -/

namespace DigestSet

variable {directory : Path} {pattern : OutputKind → FilePattern}

theorem scan_congr (same : ∀ kind, SameFiles left right directory (pattern kind)) :
    scan left directory pattern = scan right directory pattern := by
  refine Outcome.foldlM_congr (fun kind _ set => ?_) _
  rw [addFiles, addFiles, (same kind).scan_eq]
  refine Outcome.bind_congr rfl fun files scanned => ?_
  refine Outcome.foldlM_congr (fun file listed reached => ?_) set
  rw [add, add, (same kind).readFile_eq (Outcome.mapError_ok.mp scanned) listed]

end DigestSet

/-- Whether the directories of a comparison are not reached through certain names. -/
structure ValidationConfig.Avoids (config : ValidationConfig) (changed : String → Prop) : Prop where
  /-- The directory of replayed outputs. -/
  test : ∀ name, .name name ∈ config.testDirectory.segments → ¬changed name
  /-- The directory of captured outputs. -/
  post : ∀ name, .name name ∈ config.postDirectory.segments → ¬changed name

/-- No name of the directories of a capture starts as those of the files of an enqueue. -/
theorem Enqueue.not_labels_of_head (enqueue : Enqueue) {name : String} (letter : Char)
    {rest : List Char} (shape : name.toList = letter :: rest) (apart : letter ≠ 'E') :
    ¬enqueue.Labels name := by
  rintro ⟨more, split⟩
  have starts : enqueue.fileStart.toList ++ more =
      'E' :: ("nqueue_".toList ++ enqueue.padded.toList ++ '_' :: more) := by
    simp [Enqueue.fileStart]
  rw [starts, shape, List.cons.injEq] at split
  exact apart split.1.symm

theorem ValidationConfig.avoids_labels (enqueue : Enqueue) :
    ({} : ValidationConfig).Avoids enqueue.Labels := by
  constructor
  · intro name listed
    have segments_eq : Path.segments ⟨Naming.testDirectory⟩ = [.name "Test"] := by decide
    obtain rfl : name = "Test" := by simpa [segments_eq] using listed
    exact enqueue.not_labels_of_head 'T' rfl (by decide)
  · intro name listed
    have segments_eq : Path.segments ⟨Naming.postDirectory⟩ = [.name "Post"] := by decide
    obtain rfl : name = "Post" := by simpa [segments_eq] using listed
    exact enqueue.not_labels_of_head 'P' rfl (by decide)

/-! ## Files of another enqueue -/

section

variable (formed : before.WellFormed) (alike : AlikeBut other.Labels before after)
  (read : Enqueue.read before root = .ok enqueue)
  (different : enqueue ≠ other)

include formed alike read different

theorem sameCapture_of_other : SameCapture after before root := by
  obtain ⟨text, text_read, _⟩ := Outcome.bind_ok.mp read
  obtain ⟨base, reached, _⟩ := exists_reaches_of_text (by decide) text_read
  refine sameCapture_of_entries formed (alike.reaches reached) reached
    (fun name matters => alike.others base name ?_) fun found found_read name fitting =>
      alike.others _ name fun labels => ?_
  · obtain ⟨letter, letter_mem, rest, shape⟩ := matters.exists_letter
    have apart : 'E' ∉ "kbweAILSDP".toList := by decide
    exact other.not_labels_of_head letter shape fun same => apart (same ▸ letter_mem)
  · obtain rfl : enqueue = found := Except.ok.inj (read.symm.trans found_read)
    have own : enqueue.Labels name := by
      rcases fitting with fitting | fitting <;>
        exact Enqueue.labels_of_fits (by simp [Enqueue.patterns]) fitting
    exact different (Enqueue.eq_of_labels own labels)

/-- The outputs of an enqueue are the same files, wherever their directory is. -/
theorem sameFiles_of_other {relative : Path} {pattern : FilePattern}
    (plain : ∀ name, .name name ∈ relative.segments → ¬other.Labels name)
    (listed : pattern ∈ enqueue.patterns) :
    SameFiles after before (root.join relative) pattern := by
  obtain ⟨text, text_read, _⟩ := Outcome.bind_ok.mp read
  obtain ⟨base, reached, _⟩ := exists_reaches_of_text (by decide) text_read
  refine sameFiles_of_resolve formed (alike.resolve_join reached plain)
    fun location _ => ⟨alike.directories location, fun name fitting =>
      alike.others location name fun labels => ?_⟩
  exact different (Enqueue.eq_of_labels (Enqueue.labels_of_fits listed fitting) labels)

theorem validation_eq_of_other {config : ValidationConfig} (avoids : config.Avoids other.Labels) :
    Validation.run config root after = Validation.run config root before := by
  have same := sameCapture_of_other formed alike read different
  have replayed : DigestSet.replayed after (root.join config.testDirectory) enqueue =
      DigestSet.replayed before (root.join config.testDirectory) enqueue :=
    DigestSet.scan_congr fun kind => sameFiles_of_other formed alike read
      different avoids.test (by cases kind <;> simp [Enqueue.patterns])
  have captured : DigestSet.captured after (root.join config.postDirectory) enqueue =
      DigestSet.captured before (root.join config.postDirectory) enqueue :=
    DigestSet.scan_congr fun kind => sameFiles_of_other formed alike read
      different avoids.post (by cases kind <;> simp [Enqueue.patterns])
  have types : ArgumentTypes.read after (root.child Naming.argumentTypesFile) =
      ArgumentTypes.read before (root.child Naming.argumentTypesFile) := by
    rw [ArgumentTypes.read, ArgumentTypes.read,
      same.text_eq Naming.argumentTypesFile (by decide)]
  rw [Validation.run, Validation.run, same.enqueue_eq, read]
  change Validation.compare config root after enqueue =
    Validation.compare config root before enqueue
  rw [Validation.compare, Validation.compare, replayed, captured, types]

end

/-- Two enqueues have no file name in common, and no file name fits patterns of both. Whatever files
of the one come and go, a capture of the other is read as before, and so are its outputs
compared. -/
theorem Enqueue.captures_apart (enqueue other : Enqueue) (different : enqueue ≠ other) :
    (∀ name, ¬(enqueue.Labels name ∧ other.Labels name)) ∧
    (∀ name, ∀ pattern ∈ enqueue.patterns, ∀ foreign ∈ other.patterns,
      ¬(pattern.fits name = true ∧ foreign.fits name = true)) ∧
    ∀ (before after : FileTree) (root : Path), before.WellFormed →
      AlikeBut other.Labels before after → Enqueue.read before root = .ok enqueue →
        (∀ options, Capture.read after root options = Capture.read before root options) ∧
        (∀ config : ValidationConfig, config.Avoids other.Labels →
          Validation.run config root after = Validation.run config root before) ∧
        ({} : ValidationConfig).Avoids other.Labels := by
  refine ⟨?_, ?_, fun before after root formed alike read =>
    ⟨fun options => ?_, fun config avoids => ?_, ValidationConfig.avoids_labels other⟩⟩
  · rintro name ⟨labels, other_labels⟩
    exact different (eq_of_labels labels other_labels)
  · rintro name pattern listed foreign foreign_listed ⟨fitting, foreign_fitting⟩
    exact different
      (eq_of_labels (labels_of_fits listed fitting) (labels_of_fits foreign_listed foreign_fitting))
  · exact (sameCapture_of_other formed alike read different).read_eq options
  · exact validation_eq_of_other formed alike read different avoids

/-- The half-changed capture directory with files of an enqueue whose counter is longer. -/
def halfChangedShared : FileTree :=
  (Validation.halfChanged.put
    (["cap", "Pre"] ++ ["Enqueue_10000_Kernel_f_Arg_0_Buffer.bin"]) (.file [9])).put
    (["cap", "Post"] ++ ["Enqueue_10000_Kernel_f_Arg_2.raw"]) (.file [])

theorem Enqueue.captures_apart_halfChangedShared :
    (⟨1⟩ : Enqueue) ≠ ⟨10000⟩ ∧ halfChangedShared ≠ Validation.halfChanged ∧
      Capture.read halfChangedShared ⟨"cap"⟩ {} = .ok Validation.halfChangedCapture ∧
      Validation.run {} ⟨"cap"⟩ halfChangedShared =
        Validation.run {} ⟨"cap"⟩ Validation.halfChanged := by
  have alike : AlikeBut (⟨10000⟩ : Enqueue).Labels Validation.halfChanged halfChangedShared :=
    (AlikeBut.put_file (by decide +kernel) (by decide +kernel)).trans
      (AlikeBut.put_file (by decide +kernel) (by decide +kernel))
  obtain ⟨_, _, kept⟩ := captures_apart ⟨1⟩ ⟨10000⟩ (by decide)
  obtain ⟨read_eq, validated, avoids⟩ := kept Validation.halfChanged halfChangedShared ⟨"cap"⟩
    (by decide) alike (by decide +kernel)
  refine ⟨by decide, by decide +kernel, ?_, validated {} avoids⟩
  rw [read_eq]
  decide +kernel

end LaunchReplay
