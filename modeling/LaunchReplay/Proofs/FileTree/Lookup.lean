import LaunchReplay.FileTree.Basic
import LaunchReplay.Proofs.FileTree.Path
import LaunchReplay.Proofs.Outcome

/-!
# Looking up names in directories

Once the directory of a path is reached, what the path leads to is decided by the entry under its
last name alone, so two trees that agree on that entry agree on the path.
-/

namespace LaunchReplay.FileTree

/-- What holds of every tree that a file system can show. -/
structure WellFormed (tree : FileTree) : Prop where
  /-- All names are names of files. -/
  named : ∀ entry ∈ tree.entries, ∀ name ∈ entry.1, Path.IsName name
  /-- Whatever there is, is in a directory. -/
  rooted : ∀ entry ∈ tree.entries, tree.isDirectoryAt entry.1.dropLast = true

instance (tree : FileTree) : Decidable tree.WellFormed :=
  decidable_of_iff
    ((∀ entry ∈ tree.entries, ∀ name ∈ entry.1, Path.IsName name) ∧
      ∀ entry ∈ tree.entries, tree.isDirectoryAt entry.1.dropLast = true)
    ⟨fun ⟨named, rooted⟩ => ⟨named, rooted⟩, fun formed => ⟨formed.named, formed.rooted⟩⟩

variable {tree : FileTree} {location : Location} {entry : FileEntry} {directory : Path}
  {name : String} {segment : PathSegment} {next : Location}

/-! ## Entries -/

theorem entry?_eq_some_iff (below : location ≠ []) :
    tree.entry? location = some entry ↔ (location, entry) ∈ tree.entries := by
  unfold entry?
  rw [if_neg (by simpa using below), Option.map_eq_some_iff]
  constructor
  · rintro ⟨⟨found, held⟩, search, rfl⟩
    obtain rfl : found = location := by simpa using List.find?_some search
    exact List.mem_of_find?_eq_some search
  · intro listed
    obtain ⟨before, after, split⟩ := List.append_of_mem listed
    have unique := tree.unique
    rw [split, List.map_append, List.map_cons] at unique
    have absent : location ∉ before.map (·.1) := fun earlier =>
      (List.nodup_append.mp unique).2.2 location earlier location (by simp) rfl
    refine ⟨(location, entry),
      List.find?_eq_some_iff_append.mpr ⟨by simp, before, after, split, ?_⟩, rfl⟩
    intro earlier earlier_mem
    have elsewhere : earlier.1 ≠ location := fun same =>
      absent (same ▸ List.mem_map_of_mem earlier_mem)
    simpa using elsewhere

theorem isDirectoryAt_iff : tree.isDirectoryAt location = true ↔
    tree.entry? location = some .directory := by
  rw [isDirectoryAt, beq_iff_eq]

/-! ## Following segments -/

/-- Where a segment leads from a directory. -/
inductive Follows (tree : FileTree) (location : Location) : PathSegment → Location → Prop
  /-- A step to the directory itself. -/
  | here : Follows tree location .here location
  /-- A step to the directory above. -/
  | up : Follows tree location .up location.dropLast
  /-- A step to something that is in the directory. -/
  | name {name : String} (fits : name.utf8ByteSize ≤ Path.nameLimit)
      (present : (tree.entry? (location ++ [name])).isSome = true) :
      Follows tree location (.name name) (location ++ [name])

theorem follow_ok_iff : tree.follow location segment = .ok next ↔
    tree.isDirectoryAt location = true ∧ tree.Follows location segment next := by
  unfold follow
  constructor
  · intro followed
    split at followed
    · rename_i inside
      refine ⟨inside, ?_⟩
      cases segment with
      | here =>
          cases followed
          exact .here
      | up =>
          cases followed
          exact .up
      | name name =>
          dsimp only at followed
          split at followed
          · cases followed
          · rename_i fits
            split at followed
            · rename_i present
              cases followed
              exact .name (Nat.not_lt.mp fits) present
            · cases followed
    · cases followed
  · rintro ⟨inside, follows⟩
    rw [if_pos inside]
    cases follows with
    | here => rfl
    | up => rfl
    | name fits present =>
        dsimp only
        rw [if_neg (Nat.not_lt.mpr fits), if_pos present]

theorem follow_name (inside : tree.isDirectoryAt location = true) :
    tree.follow location (.name name) =
      if Path.nameLimit < name.utf8ByteSize then .error .nameTooLong
      else if (tree.entry? (location ++ [name])).isSome then .ok (location ++ [name])
      else .error .notFound :=
  if_pos inside

/-! ## Directories that are reached -/

/-- Whether the segments of a path lead to a directory at a location. -/
structure Reaches (tree : FileTree) (path : Path) (location : Location) : Prop where
  /-- They lead there. -/
  walked : tree.walk path path.segments = .ok location
  /-- There is a directory. -/
  inside : tree.isDirectoryAt location = true

theorem walk_child (reached : tree.Reaches directory location) (named : Path.IsName name) :
    tree.walk (directory.child name) (directory.child name).segments =
      tree.follow location (.name name) := by
  have started : tree.start (directory.child name) = tree.start directory := by
    rw [start, start, Path.isAbsolute_child named]
  have walked : directory.segments.foldlM tree.follow (tree.start directory) = .ok location :=
    reached.walked
  rw [walk, Path.segments_child named, List.foldlM_append, started, walked]
  exact bind_pure (tree.follow location (.name name))

/-- What a path leads to is what is under its last name in the directory that it reaches. -/
theorem lookup_child (reached : tree.Reaches directory location) (named : Path.IsName name) :
    tree.lookup (directory.child name) = (do
      (directory.child name).check
      if Path.nameLimit < name.utf8ByteSize then .error .nameTooLong
      else match tree.entry? (location ++ [name]) with
        | some entry => .ok entry
        | none => .error .notFound) := by
  rw [lookup, resolve, walk_child reached named, follow_name reached.inside,
    Path.endsInSlash_child named]
  cases (directory.child name).check with
  | error error => rfl
  | ok accepted =>
      cases held : tree.entry? (location ++ [name]) with
      | none => split <;> rfl
      | some entry =>
          split
          · rfl
          · change (match tree.entry? (location ++ [name]) with
              | some entry => Except.ok entry
              | none => Except.error FileError.notFound) = _
            rw [held]
            rfl

theorem lookup_child_ok (reached : tree.Reaches directory location) (named : Path.IsName name) :
    tree.lookup (directory.child name) = .ok entry ↔
      (directory.child name).check = .ok () ∧ name.utf8ByteSize ≤ Path.nameLimit ∧
        tree.entry? (location ++ [name]) = some entry := by
  rw [lookup_child reached named, Outcome.bind_ok]
  constructor
  · rintro ⟨_, accepted, found⟩
    split at found
    · cases found
    · rename_i fits
      split at found
      · cases found
        exact ⟨accepted, Nat.not_lt.mp fits, ‹_›⟩
      · cases found
  · rintro ⟨accepted, fits, held⟩
    exact ⟨(), accepted, by rw [if_neg (Nat.not_lt.mpr fits), held]⟩

/-- A directory under a name is reached through that name. -/
theorem Reaches.child (reached : tree.Reaches directory location) (named : Path.IsName name)
    (fits : name.utf8ByteSize ≤ Path.nameLimit)
    (held : tree.entry? (location ++ [name]) = some .directory) :
    tree.Reaches (directory.child name) (location ++ [name]) where
  walked := by
    rw [walk_child reached named, follow_name reached.inside, if_neg (Nat.not_lt.mpr fits), held]
    rfl
  inside := isDirectoryAt_iff.mpr held

/-- What the path of a name leads to is under that name. -/
theorem eq_of_walk_child {inner : Location} (reached : tree.Reaches directory location)
    (named : Path.IsName name)
    (walked : tree.walk (directory.child name) (directory.child name).segments = .ok inner) :
    inner = location ++ [name] := by
  rw [walk_child reached named, follow_name reached.inside] at walked
  split at walked
  · cases walked
  · split at walked
    · exact (Except.ok.inj walked).symm
    · cases walked

theorem Reaches.eq_of_child {inner : Location} (reached : tree.Reaches directory location)
    (named : Path.IsName name) (inside : tree.Reaches (directory.child name) inner) :
    inner = location ++ [name] :=
  eq_of_walk_child reached named inside.walked

/-- If there is anything under a name, its directory was reached. -/
theorem exists_reaches_of_lookup_child (named : Path.IsName name)
    (found : tree.lookup (directory.child name) = .ok entry) :
    ∃ location, tree.Reaches directory location ∧ (directory.child name).check = .ok () := by
  obtain ⟨last, resolved, _⟩ := Outcome.bind_ok.mp found
  obtain ⟨_, accepted, resolved⟩ := Outcome.bind_ok.mp resolved
  obtain ⟨last, walked, _⟩ := Outcome.bind_ok.mp resolved
  rw [walk, Path.segments_child named, List.foldlM_append] at walked
  obtain ⟨location, reached, followed⟩ := Outcome.bind_ok.mp walked
  obtain ⟨_, followed, _⟩ := Outcome.bind_ok.mp followed
  refine ⟨location, ⟨?_, ?_⟩, accepted⟩
  · rwa [start, Path.isAbsolute_child named] at reached
  · rw [follow] at followed
    split at followed
    · assumption
    · cases followed

theorem isFile_iff {path : Path} :
    tree.isFile path = true ↔ ∃ content, tree.readFile path = .ok content := by
  rw [isFile, readFile]
  cases tree.lookup path with
  | error error => simp [bind, Except.bind]
  | ok entry => cases entry <;> simp [bind, Except.bind]

/-! ## Listing -/

theorem nameIn?_eq_some_iff {other : Location} :
    nameIn? location other = some name ↔ other = location ++ [name] := by
  rw [nameIn?]
  rcases List.eq_nil_or_concat other with rfl | ⟨front, last, rfl⟩
  · simp
  · simp [List.append_singleton_inj, and_comm]

/-- The names that are listed for a location. -/
def namesAt (tree : FileTree) (location : Location) : List String :=
  tree.entries.filterMap fun entry => nameIn? location entry.1

theorem mem_namesAt_iff :
    name ∈ tree.namesAt location ↔ (tree.entry? (location ++ [name])).isSome := by
  rw [namesAt, List.mem_filterMap, Option.isSome_iff_exists]
  constructor
  · rintro ⟨⟨other, entry⟩, listed, found⟩
    obtain rfl := nameIn?_eq_some_iff.mp found
    exact ⟨entry, (entry?_eq_some_iff (by simp)).mpr listed⟩
  · rintro ⟨entry, held⟩
    exact ⟨_, (entry?_eq_some_iff (by simp)).mp held, nameIn?_eq_some_iff.mpr rfl⟩

theorem nodup_namesAt (tree : FileTree) (location : Location) :
    (tree.namesAt location).Nodup := by
  have unique := tree.unique
  rw [List.Nodup, List.pairwise_map] at unique
  rw [namesAt, List.Nodup, List.pairwise_filterMap]
  refine unique.imp fun {left right} apart name found other other_found same => apart ?_
  rw [nameIn?_eq_some_iff.mp found, nameIn?_eq_some_iff.mp other_found, same]

theorem list_of_reaches {path : Path} (reached : tree.Reaches path location)
    (accepted : path.check = .ok ()) : tree.list path = .ok (tree.namesAt location) := by
  have resolved : tree.resolve path = .ok location := by
    rw [resolve, accepted, reached.walked]
    change (if path.endsInSlash && !tree.isDirectoryAt location then _ else _) = _
    rw [reached.inside]
    exact if_neg (by simp)
  rw [list, resolved]
  exact if_pos reached.inside

/-- What is listed are the names in a directory that is reached. -/
theorem list_ok {path : Path} {listed : List String} (run : tree.list path = .ok listed) :
    path.check = .ok () ∧ ∃ location, tree.Reaches path location ∧
      listed = tree.namesAt location := by
  obtain ⟨location, resolved, run⟩ := Outcome.bind_ok.mp run
  obtain ⟨_, accepted, resolved⟩ := Outcome.bind_ok.mp resolved
  obtain ⟨last, walked, resolved⟩ := Outcome.bind_ok.mp resolved
  split at run
  · rename_i inside
    cases run
    split at resolved
    · cases resolved
    · cases resolved
      exact ⟨accepted, location, ⟨walked, inside⟩, rfl⟩
  · cases run

/-- A path leads to one directory at most. -/
theorem Reaches.unique {path : Path} {other : Location} (reached : tree.Reaches path location)
    (again : tree.Reaches path other) : location = other :=
  Except.ok.inj (reached.walked.symm.trans again.walked)

/-- A well-formed tree has nothing in a place where there is no directory. -/
theorem WellFormed.namesAt_of_absent (formed : tree.WellFormed)
    (absent : tree.isDirectoryAt location = false) : tree.namesAt location = [] := by
  apply List.eq_nil_iff_forall_not_mem.mpr
  intro name listed
  obtain ⟨entry, held⟩ := Option.isSome_iff_exists.mp (mem_namesAt_iff.mp listed)
  have rooted := formed.rooted _ ((entry?_eq_some_iff (by simp)).mp held)
  rw [List.dropLast_concat, absent] at rooted
  cases rooted

theorem WellFormed.isName (formed : tree.WellFormed) (listed : name ∈ tree.namesAt location) :
    Path.IsName name := by
  obtain ⟨entry, held⟩ := Option.isSome_iff_exists.mp (mem_namesAt_iff.mp listed)
  exact formed.named _ ((entry?_eq_some_iff (by simp)).mp held) name (by simp)

/-- The names in a directory under a name, in a tree that has a directory there or nothing. -/
theorem list_child (reached : tree.Reaches directory location) (named : Path.IsName name)
    (accepted : (directory.child name).check = .ok ())
    (fits : name.utf8ByteSize ≤ Path.nameLimit) :
    tree.list (directory.child name) =
      match tree.entry? (location ++ [name]) with
      | some .directory => .ok (tree.namesAt (location ++ [name]))
      | some (.file _) => .error .notDirectory
      | none => .error .notFound := by
  cases held : tree.entry? (location ++ [name]) with
  | none =>
      rw [list, resolve, accepted, walk_child reached named, follow_name reached.inside,
        if_neg (Nat.not_lt.mpr fits), held]
      rfl
  | some entry =>
      cases entry with
      | directory => exact list_of_reaches (reached.child named fits held) accepted
      | file content =>
          have no_directory : ¬ tree.isDirectoryAt (location ++ [name]) = true := by
            rw [isDirectoryAt_iff, held]
            simp
          rw [list, resolve, accepted, walk_child reached named, follow_name reached.inside,
            if_neg (Nat.not_lt.mpr fits), Path.endsInSlash_child named, held]
          exact if_neg no_directory

end LaunchReplay.FileTree
