import LaunchReplay.Proofs.Capture.Artifact

/-!
# What a scan finds

A scan that ends without an error finds for each position the one file in the directory that fits
the pattern and embeds the position in its name, if there is one.
-/

namespace LaunchReplay.Artifact

/-- Whether a file in a directory fits a pattern and embeds a position in its name. -/
structure Matches (tree : FileTree) (directory : Path) (pattern : FilePattern) (position : Nat)
    (file : String) : Prop where
  /-- The directory lists it. -/
  listed : ∃ names, tree.list directory = .ok names ∧ file ∈ names
  /-- It is a file. -/
  isFile : tree.isFile (directory.child file) = true
  /-- Its name fits. -/
  fits : pattern.fits file = true
  /-- Its name embeds the position. -/
  embeds : Naming.position? file = some position

variable {tree : FileTree} {directory : Path} {pattern : FilePattern} {files : PositionMap Path}
  {position : Nat}

theorem mem_names_iff_listed {found : List String} {file : String}
    (run : names tree directory pattern = .ok found) :
    file ∈ found ↔ (∃ listed, tree.list directory = .ok listed ∧ file ∈ listed) ∧
      tree.isFile (directory.child file) = true ∧ pattern.fits file = true := by
  rw [names] at run
  split at run
  · rename_i listed list_ok
    cases run
    rw [(perm_discoveryOrder _).mem_iff, List.mem_filter, Bool.and_eq_true, list_ok]
    simp
  · rename_i absent
    cases run
    simp [absent]
  · cases run

/-- What a scan makes of the name of a file. -/
def placed? (directory : Path) (name : String) : Option (Nat × Path) :=
  (Naming.position? name).map (·, directory.child name)

theorem placed?_eq_some_iff {name : String} {path : Path} :
    placed? directory name = some (position, path) ↔
      Naming.position? name = some position ∧ directory.child name = path := by
  simp [placed?]

theorem place_ok {found grown : PositionMap Path} {name : String}
    (run : place directory found name = .ok grown) :
    (placed? directory name = none ∧ grown = found) ∨
      ∃ position path, placed? directory name = some (position, path) ∧
        found.get? position = none ∧ grown = found.insert position path := by
  rw [place] at run
  split at run
  · rename_i absent
    cases run
    exact .inl ⟨by simp [placed?, absent], rfl⟩
  · rename_i position embedded
    split at run
    · cases run
    · rename_i unset
      cases run
      exact .inr ⟨position, _, placed?_eq_some_iff.mpr ⟨embedded, rfl⟩, unset, rfl⟩

theorem exists_grown_of_scan (scanned : scan tree directory pattern = .ok files) :
    ∃ found, names tree directory pattern = .ok found ∧
      PositionMap.Grown (placed? directory) found .empty files := by
  obtain ⟨found, listed, run⟩ := Outcome.bind_ok.mp scanned
  exact ⟨found, listed, PositionMap.grown_of_foldlM (fun _ _ _ => place_ok) run⟩

theorem Matches.mem_names {found : List String} {file : String}
    (run : names tree directory pattern = .ok found)
    (hit : Matches tree directory pattern position file) : file ∈ found :=
  (mem_names_iff_listed run).mpr ⟨hit.listed, hit.isFile, hit.fits⟩

/-- The file at a position is the one that matches it. -/
theorem scan_get?_iff (scanned : scan tree directory pattern = .ok files) {path : Path} :
    files.get? position = some path ↔
      ∃ file, Matches tree directory pattern position file ∧ directory.child file = path := by
  obtain ⟨found, run, grown⟩ := exists_grown_of_scan scanned
  rw [grown.answers, PositionMap.get?_empty]
  constructor
  · rintro (empty | ⟨file, file_mem, made⟩)
    · cases empty
    · obtain ⟨embeds, path_eq⟩ := placed?_eq_some_iff.mp made
      obtain ⟨listed, isFile, fits⟩ := (mem_names_iff_listed run).mp file_mem
      exact ⟨file, ⟨listed, isFile, fits, embeds⟩, path_eq⟩
  · rintro ⟨file, hit, path_eq⟩
    exact .inr ⟨file, hit.mem_names run, placed?_eq_some_iff.mpr ⟨hit.embeds, path_eq⟩⟩

/-- No two files match one position. -/
theorem Matches.unique {file other : String} (scanned : scan tree directory pattern = .ok files)
    (hit : Matches tree directory pattern position file)
    (other_hit : Matches tree directory pattern position other) : file = other := by
  obtain ⟨found, run, grown⟩ := exists_grown_of_scan scanned
  exact grown.item_eq (hit.mem_names run) (other_hit.mem_names run)
    (placed?_eq_some_iff.mpr ⟨hit.embeds, rfl⟩) (placed?_eq_some_iff.mpr ⟨other_hit.embeds, rfl⟩)

theorem mem_positions_scan_iff (scanned : scan tree directory pattern = .ok files) :
    position ∈ files.positions ↔ ∃ file, Matches tree directory pattern position file := by
  simp [PositionMap.mem_positions_iff, scan_get?_iff scanned]

/-- Whether a map has at each position what the one file which matches there is decoded to. -/
structure Collected {ε α : Type} (tree : FileTree) (directory : Path) (pattern : FilePattern)
    (decode : Path → Except ε α) (map : PositionMap α) : Prop where
  /-- What is at a position was decoded from a file that matches it. -/
  answers : ∀ position value, map.get? position = some value ↔
    ∃ file, Matches tree directory pattern position file ∧
      decode (directory.child file) = .ok value
  /-- All files that match a position can be decoded. -/
  decodes : ∀ position file, Matches tree directory pattern position file →
    ∃ value, decode (directory.child file) = .ok value

theorem Collected.mem_positions_iff {ε α : Type} {decode : Path → Except ε α} {map : PositionMap α}
    (collected : Collected tree directory pattern decode map) :
    position ∈ map.positions ↔ ∃ file, Matches tree directory pattern position file := by
  rw [PositionMap.mem_positions_iff]
  constructor
  · rintro ⟨value, held⟩
    obtain ⟨file, hit, _⟩ := (collected.answers position value).mp held
    exact ⟨file, hit⟩
  · rintro ⟨file, hit⟩
    obtain ⟨value, decoded⟩ := collected.decodes position file hit
    exact ⟨value, (collected.answers position value).mpr ⟨file, hit, decoded⟩⟩

theorem collected_of_traverse {ε α : Type} {decode : Path → Except ε α} {map : PositionMap α}
    (scanned : scan tree directory pattern = .ok files)
    (run : files.traverse (fun _ => decode) = .ok map) :
    Collected tree directory pattern decode map := by
  have filled := PositionMap.filled_of_traverse run
  have found : ∀ position file, Matches tree directory pattern position file →
      files.get? position = some (directory.child file) :=
    fun position file hit => (scan_get?_iff scanned).mpr ⟨file, hit, rfl⟩
  refine ⟨fun position value => ?_, fun position file hit => ?_⟩
  · rw [filled.answers, PositionMap.get?_empty]
    constructor
    · rintro (empty | ⟨path, held, decoded⟩)
      · cases empty
      · obtain ⟨file, hit, rfl⟩ := (scan_get?_iff scanned).mp held
        exact ⟨file, hit, decoded⟩
    · rintro ⟨file, hit, decoded⟩
      exact .inr ⟨_, found position file hit, decoded⟩
  · exact filled.decodes position _ (found position file hit)

end LaunchReplay.Artifact
