import LaunchReplay.Proofs.Capture.Artifact
import LaunchReplay.Validation.DigestSet

/-!
# Digests of stored outputs

Where a directory holds exactly one file for each output of either kind, the digests of its files
are those of the contents, each at the position of its output.
-/

namespace LaunchReplay

/-- Whether the files in a directory that fit a pattern are exactly one for each of some outputs,
under the name and with the content of that output. -/
structure Stored (tree : FileTree) (directory : Path) (pattern : OutputKind → FilePattern)
    (name : Nat → OutputKind → String) (kind? : Nat → Option OutputKind)
    (content : Nat → Bytes) : Prop where
  /-- The files that fit are those of the outputs of the kind. -/
  listed : ∀ kind, ∃ found, Artifact.names tree directory (pattern kind) = .ok found ∧
    found.Nodup ∧ ∀ file, file ∈ found ↔ ∃ position, kind? position = some kind ∧
      name position kind = file
  /-- The name of an output embeds its position. -/
  embedded : ∀ position kind, kind? position = some kind →
    Naming.position? (name position kind) = some position
  /-- The file of an output has its content. -/
  held : ∀ position kind, kind? position = some kind →
    tree.readFile (directory.child (name position kind)) = .ok (content position)

/-- What is stored in a directory stays so when nothing is new at or below it. -/
theorem Stored.of_grown {before after : FileTree} {added : List (Location × FileEntry)}
    {root : Path} {base : Location} {directory : String} {pattern : OutputKind → FilePattern}
    {name : Nat → OutputKind → String} {kind? : Nat → Option OutputKind} {content : Nat → Bytes}
    (stored : Stored before (root.child directory) pattern name kind? content)
    (grown : FileTree.Extends before after added) (formed : before.WellFormed)
    (reached : before.Reaches root base) (directory_named : Path.IsName directory)
    (accepted : (root.child directory).check = .ok ())
    (fits : directory.utf8ByteSize ≤ Path.nameLimit)
    (named : ∀ position kind, kind? position = some kind → Path.IsName (name position kind))
    (outside : ∀ entry ∈ added, ¬ base ++ [directory] <+: entry.1) :
    Stored after (root.child directory) pattern name kind? content where
  listed kind := by
    rw [Artifact.names_child_eq grown formed reached directory_named accepted fits outside]
    exact stored.listed kind
  embedded := stored.embedded
  held position kind of_kind := by
    have file_named := named position kind of_kind
    have held := stored.held position kind of_kind
    obtain ⟨entry, found, _⟩ := Outcome.bind_ok.mp held
    obtain ⟨inner, inner_reached, _⟩ := FileTree.exists_reaches_of_lookup_child file_named found
    obtain rfl := reached.eq_of_child directory_named inner_reached
    rw [← held]
    exact grown.readFile_child_eq inner_reached file_named
      (FileTree.notMem_of_outside outside (List.prefix_append _ _))

namespace DigestSet

variable {tree : FileTree} {directory : Path} {pattern : OutputKind → FilePattern}
  {name : Nat → OutputKind → String} {kind? : Nat → Option OutputKind} {content : Nat → Bytes}

theorem scan_of_stored (stored : Stored tree directory pattern name kind? content)
    (kind : OutputKind) :
    ∃ files, Artifact.scan tree directory (pattern kind) = .ok files ∧
      ∀ position path, files.get? position = some path ↔
        kind? position = some kind ∧ directory.child (name position kind) = path := by
  obtain ⟨found, names_eq, unique, listed⟩ := stored.listed kind
  have embedded : ∀ file ∈ found,
      Naming.position? file = some ((Naming.position? file).getD 0) := by
    intro file file_mem
    obtain ⟨position, of_kind, rfl⟩ := (listed file).mp file_mem
    rw [stored.embedded position kind of_kind]
    rfl
  have place_eq : ∀ position, kind? position = some kind →
      (Naming.position? (name position kind)).getD 0 = position := by
    intro position of_kind
    rw [stored.embedded position kind of_kind]
    rfl
  have distinct : (found.map fun file => (Naming.position? file).getD 0).Nodup := by
    apply unique.map_on
    intro file file_mem other other_mem same
    obtain ⟨position, of_kind, rfl⟩ := (listed file).mp file_mem
    obtain ⟨place, of_same_kind, rfl⟩ := (listed other).mp other_mem
    rw [place_eq position of_kind, place_eq place of_same_kind] at same
    rw [same]
  obtain ⟨files, scanned, answers⟩ := Artifact.scan_ok names_eq embedded distinct
  refine ⟨files, scanned, fun position path => ?_⟩
  rw [answers]
  constructor
  · rintro ⟨file, file_mem, rfl, rfl⟩
    obtain ⟨place, of_kind, rfl⟩ := (listed file).mp file_mem
    rw [place_eq place of_kind]
    exact ⟨of_kind, rfl⟩
  · rintro ⟨of_kind, rfl⟩
    exact ⟨_, (listed _).mpr ⟨position, of_kind, rfl⟩, place_eq position of_kind, rfl⟩

/-- The files of one kind are added to a set in which the outputs of that kind have no digests. -/
theorem addFiles_of_stored (stored : Stored tree directory pattern name kind? content)
    {set : DigestSet} {kind : OutputKind}
    (free : ∀ position, kind? position = some kind → set.get? position = none) :
    ∃ grown, addFiles tree directory pattern set kind = .ok grown ∧
      ∀ position entry, grown.get? position = some entry ↔
        set.get? position = some entry ∨
          kind? position = some kind ∧
            ⟨directory.child (name position kind), kind, .ofContent (content position)⟩ =
              entry := by
  obtain ⟨files, scanned, answers⟩ := scan_of_stored stored kind
  have file_of : ∀ file ∈ files.entries,
      kind? file.1 = some kind ∧ directory.child (name file.1 kind) = file.2 := by
    rintro ⟨position, path⟩ file_mem
    exact (answers position path).mp (PositionMap.get?_eq_some_iff.mpr file_mem)
  have inserts : ∀ file ∈ files.entries, ∀ map : DigestSet, map.get? file.1 = none →
      add tree kind map file =
        .ok (map.insert file.1 ⟨file.2, kind, .ofContent (content file.1)⟩) := by
    intro file file_mem map unset
    obtain ⟨of_kind, path_eq⟩ := file_of file file_mem
    have held := stored.held file.1 kind of_kind
    rw [path_eq] at held
    rw [add]
    refine Outcome.bind_ok.mpr ⟨content file.1, by rw [held]; rfl, ?_⟩
    rw [unset]
  have distinct : (files.entries.map (·.1)).Nodup :=
    files.positions_ascending.imp Nat.ne_of_lt
  obtain ⟨grown, run, grown_answers⟩ := PositionMap.foldlM_insert_ok inserts distinct
    fun file file_mem => free file.1 (file_of file file_mem).1
  refine ⟨grown, ?_, fun position entry => ?_⟩
  · rw [addFiles, scanned]
    exact run
  · rw [grown_answers]
    apply or_congr_right
    constructor
    · rintro ⟨file, file_mem, rfl, rfl⟩
      obtain ⟨of_kind, path_eq⟩ := file_of file file_mem
      exact ⟨of_kind, by rw [path_eq]⟩
    · rintro ⟨of_kind, rfl⟩
      have file_mem := PositionMap.get?_eq_some_iff.mp
        ((answers position _).mpr ⟨of_kind, rfl⟩)
      exact ⟨_, file_mem, rfl, rfl⟩

/-- The digests of stored outputs are those of their contents. -/
theorem scan_ok_of_stored (stored : Stored tree directory pattern name kind? content) :
    ∃ set, scan tree directory pattern = .ok set ∧
      ∀ position entry, set.get? position = some entry ↔
        ∃ kind, kind? position = some kind ∧
          ⟨directory.child (name position kind), kind, .ofContent (content position)⟩ = entry := by
  have unset : ∀ position, kind? position = some .buffer →
      (PositionMap.empty : DigestSet).get? position = none := fun _ _ => rfl
  obtain ⟨buffers, buffers_added, buffers_answers⟩ := addFiles_of_stored stored unset
  have free : ∀ position, kind? position = some .image → buffers.get? position = none := by
    intro position of_image
    apply Option.eq_none_iff_forall_ne_some.mpr
    intro entry held
    rcases (buffers_answers position entry).mp held with empty | ⟨of_buffer, _⟩
    · cases empty
    · cases of_image.symm.trans of_buffer
  obtain ⟨both, images_added, answers⟩ := addFiles_of_stored stored free
  refine ⟨both, ?_, fun position entry => ?_⟩
  · rw [scan, List.foldlM_cons, buffers_added]
    change ([OutputKind.image].foldlM (addFiles tree directory pattern) buffers) = _
    rw [List.foldlM_cons, images_added]
    rfl
  · rw [answers, buffers_answers, PositionMap.get?_empty]
    constructor
    · rintro ((empty | ⟨of_kind, rfl⟩) | ⟨of_kind, rfl⟩)
      · cases empty
      · exact ⟨.buffer, of_kind, rfl⟩
      · exact ⟨.image, of_kind, rfl⟩
    · rintro ⟨kind, of_kind, rfl⟩
      cases kind with
      | buffer => exact .inl (.inr ⟨of_kind, rfl⟩)
      | image => exact .inr ⟨of_kind, rfl⟩

end DigestSet

end LaunchReplay
