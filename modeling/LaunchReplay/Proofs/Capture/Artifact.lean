import LaunchReplay.Capture.Artifact
import LaunchReplay.Proofs.FileTree.Growth
import LaunchReplay.Proofs.PositionMap

/-!
# Files that fit a pattern

The files of a group are found by name in the directory that holds them, and scanned by the
positions in their names. The order in which they are found does not matter for the outcome.
-/

namespace LaunchReplay

/-- A file was read under a name, so its directory was reached and its path accepted. -/
theorem exists_reaches_of_text {tree : FileTree} {root : Path} {name text : String}
    (named : Path.IsName name) (read : Artifact.text tree (root.child name) = .ok text) :
    ∃ base, tree.Reaches root base ∧ (root.child name).check = .ok () := by
  have text_read := Outcome.mapError_ok.mp read
  obtain ⟨bytes, bytes_read, _⟩ := Outcome.bind_ok.mp text_read
  obtain ⟨entry, found, _⟩ := Outcome.bind_ok.mp bytes_read
  exact FileTree.exists_reaches_of_lookup_child named found

/-- A text that was read is still read in a tree that has grown. -/
theorem text_of_extends {before after : FileTree} {added : List (Location × FileEntry)}
    {root : Path} {name text : String} (grown : FileTree.Extends before after added)
    (named : Path.IsName name) (read : Artifact.text before (root.child name) = .ok text) :
    Artifact.text after (root.child name) = .ok text := by
  obtain ⟨base, reached, _⟩ := exists_reaches_of_text named read
  have text_read := Outcome.mapError_ok.mp read
  obtain ⟨bytes, bytes_read, _⟩ := Outcome.bind_ok.mp text_read
  obtain ⟨entry, found, _⟩ := Outcome.bind_ok.mp bytes_read
  have held := ((FileTree.lookup_child_ok reached named).mp found).2.2
  have old : base ++ [name] ∉ added.map (·.1) := by
    intro new
    obtain ⟨⟨place, other⟩, other_mem, rfl⟩ := List.mem_map.mp new
    rw [grown.entry?_eq_none (by simp) other_mem] at held
    cases held
  rw [Artifact.text, grown.readText_child_eq reached named old]
  exact read

namespace Artifact

variable {tree : FileTree} {location : Location} {directory : Path} {name : String}
  {pattern : FilePattern}

theorem perm_discoveryOrder (names : List String) : (discoveryOrder names).Perm names :=
  List.mergeSort_perm _ _

/-- The files in a directory under a name; none if there is nothing under that name. -/
theorem names_child (reached : tree.Reaches directory location) (named : Path.IsName name)
    (accepted : (directory.child name).check = .ok ())
    (fits : name.utf8ByteSize ≤ Path.nameLimit) :
    names tree (directory.child name) pattern =
      match tree.entry? (location ++ [name]) with
      | some .directory =>
        .ok (discoveryOrder ((tree.namesAt (location ++ [name])).filter fun file =>
          tree.isFile ((directory.child name).child file) && pattern.fits file))
      | some (.file _) => .error (.unreadable (directory.child name) .notDirectory)
      | none => .ok [] := by
  rw [names, FileTree.list_child reached named accepted fits]
  cases tree.entry? (location ++ [name]) with
  | none => rfl
  | some entry => cases entry <;> rfl

theorem names_of_reaches (reached : tree.Reaches directory location)
    (accepted : directory.check = .ok ()) :
    names tree directory pattern =
      .ok (discoveryOrder ((tree.namesAt location).filter fun file =>
        tree.isFile (directory.child file) && pattern.fits file)) := by
  rw [names, FileTree.list_of_reaches reached accepted]

/-- Whether no file directly in a location has a name that fits a pattern. -/
def Vacant (tree : FileTree) (location : Location) (pattern : FilePattern) : Prop :=
  ∀ file content, tree.entry? (location ++ [file]) = some (.file content) →
    pattern.fits file = false

theorem names_of_vacant (reached : tree.Reaches directory location)
    (accepted : directory.check = .ok ())
    (named : ∀ file ∈ tree.namesAt location, Path.IsName file)
    (vacant : Vacant tree location pattern) : names tree directory pattern = .ok [] := by
  have none_fits : (tree.namesAt location).filter (fun file =>
      tree.isFile (directory.child file) && pattern.fits file) = [] := by
    apply List.filter_eq_nil_iff.mpr
    intro file listed kept
    obtain ⟨present, fitting⟩ := Bool.and_eq_true_iff.mp kept
    rw [FileTree.isFile] at present
    split at present
    · rename_i content found
      have held := ((FileTree.lookup_child_ok reached (named file listed)).mp found).2.2
      rw [vacant file content held] at fitting
      cases fitting
    · cases present
  rw [names_of_reaches reached accepted, none_fits, (perm_discoveryOrder []).eq_nil]

/-- What is found are files that a directory lists, each once. -/
theorem names_ok {found : List String} (run : names tree directory pattern = .ok found) :
    ∃ listed : List String, listed.Nodup ∧
      found.Perm (listed.filter fun file =>
        tree.isFile (directory.child file) && pattern.fits file) := by
  rw [names] at run
  split at run
  · rename_i listed list_ok
    cases run
    obtain ⟨location, _, list_ok⟩ := Outcome.bind_ok.mp list_ok
    split at list_ok
    · cases list_ok
      exact ⟨_, tree.nodup_namesAt location, perm_discoveryOrder _⟩
    · cases list_ok
  · cases run
    exact ⟨[], List.nodup_nil, List.Perm.refl _⟩
  · cases run

theorem nodup_of_names {found : List String} (run : names tree directory pattern = .ok found) :
    found.Nodup := by
  obtain ⟨listed, unique, same⟩ := names_ok run
  exact same.nodup_iff.mpr (unique.filter _)

theorem isFile_of_mem_names {found : List String} {file : String}
    (run : names tree directory pattern = .ok found) (file_mem : file ∈ found) :
    tree.isFile (directory.child file) = true := by
  obtain ⟨listed, _, same⟩ := names_ok run
  have kept := (List.mem_filter.mp (same.mem_iff.mp file_mem)).2
  exact (Bool.and_eq_true_iff.mp kept).1

theorem mem_names_iff {found : List String} {file : String}
    (reached : tree.Reaches directory location) (accepted : directory.check = .ok ())
    (listed : names tree directory pattern = .ok found) :
    file ∈ found ↔ file ∈ tree.namesAt location ∧ tree.isFile (directory.child file) = true ∧
      pattern.fits file = true := by
  rw [names_of_reaches reached accepted] at listed
  cases listed
  rw [(perm_discoveryOrder _).mem_iff, List.mem_filter, Bool.and_eq_true]

/-- A file of which the name fits is found in its directory. -/
theorem mem_names_of_isFile {found : List String} {file : String}
    (reached : tree.Reaches directory location) (accepted : directory.check = .ok ())
    (listed : names tree directory pattern = .ok found) (named : Path.IsName file)
    (present : tree.isFile (directory.child file) = true) (fitting : pattern.fits file = true) :
    file ∈ found := by
  refine (mem_names_iff reached accepted listed).mpr ⟨?_, present, fitting⟩
  rw [FileTree.isFile] at present
  split at present
  · rename_i held
    have here := ((FileTree.lookup_child_ok reached named).mp held).2.2
    exact FileTree.mem_namesAt_iff.mpr (by rw [here]; rfl)
  · cases present

/-- Nothing new at or below a directory leaves the files in it as they were. -/
theorem names_child_eq {after : FileTree} {added : List (Location × FileEntry)}
    (grown : FileTree.Extends tree after added) (formed : tree.WellFormed)
    (reached : tree.Reaches directory location) (named : Path.IsName name)
    (accepted : (directory.child name).check = .ok ())
    (fits : name.utf8ByteSize ≤ Path.nameLimit)
    (outside : ∀ entry ∈ added, ¬ location ++ [name] <+: entry.1) :
    names after (directory.child name) pattern = names tree (directory.child name) pattern := by
  have old : location ++ [name] ∉ added.map (·.1) :=
    FileTree.notMem_of_outside outside (List.prefix_refl _)
  have old_child : ∀ file, location ++ [name] ++ [file] ∉ added.map (·.1) := fun file =>
    FileTree.notMem_of_outside outside (List.prefix_append _ [file])
  have no_names : added.filterMap
      (fun entry => FileTree.nameIn? (location ++ [name]) entry.1) = [] := by
    apply List.filterMap_eq_nil_iff.mpr
    intro entry entry_mem
    apply Option.eq_none_iff_forall_ne_some.mpr
    intro file found
    exact outside entry entry_mem
      (FileTree.nameIn?_eq_some_iff.mp found ▸ List.prefix_append _ _)
  rw [names_child reached named accepted fits,
    names_child (grown.reaches reached) named accepted fits, grown.entry?_eq old]
  cases held : tree.entry? (location ++ [name]) with
  | none => rfl
  | some entry =>
      cases entry with
      | file content => rfl
      | directory =>
          have inner := reached.child named fits held
          have same : (tree.namesAt (location ++ [name])).filter (fun file =>
              after.isFile ((directory.child name).child file) && pattern.fits file) =
              (tree.namesAt (location ++ [name])).filter fun file =>
                tree.isFile ((directory.child name).child file) && pattern.fits file := by
            apply List.filter_congr
            intro file file_mem
            rw [grown.isFile_child_eq inner (formed.isName file_mem) (old_child file)]
          dsimp only
          rw [grown.namesAt_eq, no_names, List.append_nil, same]

/-- Files whose names all embed positions, no two the same, are scanned without an error. -/
theorem scan_ok {found : List String} {place : String → Nat}
    (listed : names tree directory pattern = .ok found)
    (embedded : ∀ file ∈ found, Naming.position? file = some (place file))
    (distinct : (found.map place).Nodup) :
    ∃ files, scan tree directory pattern = .ok files ∧
      ∀ position path, files.get? position = some path ↔
        ∃ file ∈ found, place file = position ∧ directory.child file = path := by
  have inserts : ∀ file ∈ found, ∀ map : PositionMap Path, map.get? (place file) = none →
      Artifact.place directory map file = .ok (map.insert (place file) (directory.child file)) := by
    intro file file_mem map free
    rw [Artifact.place, embedded file file_mem]
    simp only [free]
  have free : ∀ file ∈ found, (PositionMap.empty : PositionMap Path).get? (place file) = none :=
    fun file _ => PositionMap.get?_empty _
  obtain ⟨files, run, answers⟩ := PositionMap.foldlM_insert_ok inserts distinct free
  refine ⟨files, ?_, fun position path => ?_⟩
  · rw [scan, listed]
    exact run
  · rw [answers, PositionMap.get?_empty]
    simp

/-! ## Positions are words -/

theorem position?_lt {name : String} {position : Nat}
    (embedded : Naming.position? name = some position) : position < Text.word32 := by
  rw [Naming.position?, Naming.positionOfDigits?, Text.natural?] at embedded
  split at embedded
  · cases embedded
  · split at embedded
    · cases embedded
    · dsimp only at embedded
      split at embedded
      · rename_i below
        cases embedded
        exact below
      · cases embedded

/-- Whether all positions of a map are 32-bit words. -/
def InWords {α : Type} (map : PositionMap α) : Prop :=
  ∀ position value, map.get? position = some value → position < Text.word32

end Artifact

end LaunchReplay
