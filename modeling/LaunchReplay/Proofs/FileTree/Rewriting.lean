import LaunchReplay.Proofs.FileTree.Confinement

/-!
# Writing again

A path to which a file was written leads to that file until another is put in its place. So what was
written can be read, and to write it again, or to make a directory again, changes nothing.
-/

namespace LaunchReplay.FileTree

variable {tree before after : FileTree} {path other : Path} {directory location : Location}
  {name : String} {content : Bytes}

/-! ## Where a path places a file -/

theorem placeFor_of_walk (accepted : path.check = .ok ())
    (walked : tree.walk path path.segments.dropLast = .ok directory)
    (last_name : path.segments.getLast? = some (.name name))
    (inside : tree.isDirectoryAt directory = true) :
    tree.placeFor path = .ok (directory, some name) := by
  rw [placeFor, accepted, walked, last_name]
  exact if_pos inside

/-- What is under the name that a path gives to something new is what the path leads to. -/
theorem walk_of_placeFor (placed : tree.placeFor path = .ok (directory, some name))
    (fits : name.utf8ByteSize ≤ Path.nameLimit)
    (present : (tree.entry? (directory ++ [name])).isSome = true) :
    tree.walk path path.segments = .ok (directory ++ [name]) := by
  obtain ⟨_, walked, last_name, inside⟩ := placeFor_ok placed
  have first_walked : path.segments.dropLast.foldlM tree.follow (tree.start path) =
      .ok directory := walked
  rw [walk, last_name, List.foldlM_append, first_walked]
  change (do tree.follow directory (.name name) >>= pure) = _
  rw [bind_pure, follow_name inside, if_neg (Nat.not_lt.mpr fits), if_pos present]

theorem Places.last_eq (places : Places tree path directory name) :
    path.segments.getLast? = some (.name name) := by
  obtain ⟨_, _, last_name, _⟩ := placeFor_ok places.placed
  rw [last_name, List.getLast?_concat]

theorem Places.unique {elsewhere : Location} {label : String}
    (places : Places tree path directory name) (again : Places tree path elsewhere label) :
    directory = elsewhere ∧ name = label := by
  simpa using Except.ok.inj (places.placed.symm.trans again.placed)

theorem Keeps.places (keeps : Keeps before after) (places : Places before path directory name) :
    Places after path directory name := by
  obtain ⟨accepted, walked, _, inside⟩ := placeFor_ok places.placed
  exact ⟨placeFor_of_walk accepted (keeps.walk_ok walked) places.last_eq
    (keeps.isDirectoryAt inside), places.open_ended, places.fits⟩

/-! ## Files that are held -/

theorem putEntry_of_mem {entry : FileEntry} {entries : List (Location × FileEntry)}
    (unique : (entries.map (·.1)).Nodup) (listed : (location, entry) ∈ entries) :
    putEntry location entry entries = entries := by
  induction entries with
  | nil => cases listed
  | cons head rest induction =>
      obtain ⟨first, old⟩ := head
      rw [List.map_cons, List.nodup_cons] at unique
      rw [putEntry]
      rcases List.mem_cons.mp listed with here | later
      · cases here
        rw [if_pos rfl]
      · have elsewhere : first ≠ location := by
          rintro rfl
          exact unique.1 (List.mem_map.mpr ⟨_, later, rfl⟩)
        rw [if_neg elsewhere, induction unique.2 later]

/-- To put what is there changes nothing. -/
theorem put_of_entry? {entry : FileEntry} (below : location ≠ [])
    (held : tree.entry? location = some entry) : tree.put location entry = tree := by
  have same := putEntry_of_mem tree.unique ((entry?_eq_some_iff below).mp held)
  simp [put, same]

theorem lookup_of_resolve {entry : FileEntry} (resolved : tree.resolve path = .ok location)
    (held : tree.entry? location = some entry) : tree.lookup path = .ok entry := by
  rw [lookup, resolved]
  exact Outcome.bind_ok.mpr ⟨location, rfl, by rw [held]⟩

/-- Whether a path places files where there is one with the given content. -/
structure Holds (tree : FileTree) (path : Path) (content : Bytes) : Prop where
  /-- It places them where that file is. -/
  held : ∃ directory name, Places tree path directory name ∧
    tree.entry? (directory ++ [name]) = some (.file content)

theorem holds_of_writeFile (wrote : tree.writeFile path content = .ok after) :
    after.Holds path content := by
  obtain ⟨directory, name, places, _, rfl⟩ := writeFile_ok wrote
  refine ⟨directory, name, (writeFile_keeps wrote).places places, ?_⟩
  rw [entry?_put (by simp), if_pos rfl]

namespace Holds

/-- What is held can be read. -/
theorem readFile_eq (holds : tree.Holds path content) : tree.readFile path = .ok content := by
  obtain ⟨directory, name, places, held⟩ := holds
  obtain ⟨accepted, _, _, _⟩ := placeFor_ok places.placed
  have walked := walk_of_placeFor places.placed places.fits (by rw [held]; rfl)
  have resolved : tree.resolve path = .ok (directory ++ [name]) := by
    rw [resolve, accepted, walked, places.open_ended]
    rfl
  rw [readFile, lookup_of_resolve resolved held]
  rfl

/-- To write what is held changes nothing. -/
theorem writeFile_eq (holds : tree.Holds path content) :
    tree.writeFile path content = .ok tree := by
  obtain ⟨directory, name, places, held⟩ := holds
  have no_directory : tree.isDirectoryAt (directory ++ [name]) = false := by
    rw [isDirectoryAt, held]
    rfl
  rw [writeFile, places.placed]
  change (if path.endsInSlash then _ else _) = _
  rw [places.open_ended, if_neg Bool.false_ne_true, if_neg (Nat.not_lt.mpr places.fits),
    no_directory, if_neg Bool.false_ne_true, put_of_entry? (by simp) held]

/-- A file that is written under another name does not touch what is held. -/
theorem writeFile_other {patch : Bytes} (holds : before.Holds path content)
    (wrote : before.writeFile other patch = .ok after)
    (apart : path.segments.getLast? ≠ other.segments.getLast?) : after.Holds path content := by
  obtain ⟨directory, name, places, held⟩ := holds
  obtain ⟨elsewhere, label, other_places, _, rfl⟩ := writeFile_ok wrote
  refine ⟨directory, name, (writeFile_keeps wrote).places places, ?_⟩
  rw [entry?_put (by simp), if_neg, held]
  intro same
  rw [List.append_singleton_inj] at same
  exact apart (by rw [places.last_eq, other_places.last_eq, same.2])

end Holds

/-! ## Directories that are there -/

theorem reaches_of_isDirectory (inside : tree.isDirectory path = true) :
    path.check = .ok () ∧ ∃ location, tree.Reaches path location := by
  rw [isDirectory] at inside
  split at inside
  · rename_i found
    obtain ⟨location, resolved, found⟩ := Outcome.bind_ok.mp found
    obtain ⟨_, accepted, resolved⟩ := Outcome.bind_ok.mp resolved
    obtain ⟨last, walked, resolved⟩ := Outcome.bind_ok.mp resolved
    have last_eq : last = location := by
      split at resolved
      · cases resolved
      · exact Except.ok.inj resolved
    subst last_eq
    refine ⟨accepted, last, walked, isDirectoryAt_iff.mpr ?_⟩
    split at found
    · rename_i held
      rw [held, Except.ok.inj found]
    · cases found
  · cases inside

theorem isDirectory_of_reaches (accepted : path.check = .ok ())
    (reached : tree.Reaches path location) : tree.isDirectory path = true := by
  have resolved : tree.resolve path = .ok location := by
    rw [resolve, accepted, reached.walked]
    change (if path.endsInSlash && !tree.isDirectoryAt location then _ else _) = _
    rw [reached.inside, Bool.not_true, Bool.and_false, if_neg Bool.false_ne_true]
  rw [isDirectory, lookup_of_resolve resolved (isDirectoryAt_iff.mp reached.inside)]

/-- A directory that is ensured is reached afterwards. -/
theorem reaches_of_ensureDirectory (ensured : tree.ensureDirectory path = (.ok (), after)) :
    path.check = .ok () ∧ ∃ location, after.Reaches path location := by
  rw [ensureDirectory] at ensured
  split at ensured
  · rename_i made made_eq
    cases ensured
    obtain ⟨directory, name, placed, fits, absent, rfl⟩ := createDirectory_ok made_eq
    obtain ⟨accepted, walked, last_name, inside⟩ := placeFor_ok placed
    have keeps : Keeps tree (tree.put (directory ++ [name]) .directory) :=
      (extends_put (by simp) absent).keeps
    have held : FileTree.entry? (tree.put (directory ++ [name]) .directory) (directory ++ [name]) =
        some .directory := by
      rw [entry?_put (by simp), if_pos rfl]
    have still_placed := placeFor_of_walk accepted (keeps.walk_ok walked)
      (by rw [last_name, List.getLast?_concat]) (keeps.isDirectoryAt inside)
    exact ⟨accepted, _, walk_of_placeFor still_placed fits (by rw [held]; rfl),
      isDirectoryAt_iff.mpr held⟩
  · split at ensured
    · rename_i inside
      cases ensured
      exact reaches_of_isDirectory inside
    · cases ensured

theorem reaches_of_ensureChain {above : List Path}
    (ensured : tree.ensureChain (path :: above) = (.ok (), after)) :
    path.check = .ok () ∧ ∃ location, after.Reaches path location := by
  rw [ensureChain] at ensured
  split at ensured
  · split at ensured
    · exact reaches_of_ensureDirectory ensured
    · rename_i failed
      exact absurd ensured (failed after)
  · exact reaches_of_ensureDirectory ensured

/-- A directory that is reached cannot be made. -/
theorem createDirectory_of_reaches (accepted : path.check = .ok ())
    (reached : tree.Reaches path location) :
    tree.createDirectory path = .error .alreadyExists := by
  have walked : path.segments.foldlM tree.follow (tree.start path) = .ok location := reached.walked
  rw [createDirectory, placeFor, accepted, walk]
  rcases List.eq_nil_or_concat path.segments with empty | ⟨front, last, split_eq⟩
  · rw [empty]
    rfl
  · rw [List.concat_eq_append] at split_eq
    rw [split_eq, List.foldlM_append] at walked
    obtain ⟨directory, front_walked, last_followed⟩ := Outcome.bind_ok.mp walked
    obtain ⟨_, followed, _⟩ := Outcome.bind_ok.mp last_followed
    obtain ⟨inside, follows⟩ := follow_ok_iff.mp followed
    rw [split_eq, List.dropLast_concat, List.getLast?_concat, front_walked]
    change (if tree.isDirectoryAt directory then _ else _) >>= _ = _
    rw [if_pos inside]
    cases follows with
    | here => rfl
    | up => rfl
    | name fits present =>
        change (if Path.nameLimit < _ then _ else _) = _
        rw [if_neg (Nat.not_lt.mpr fits), if_pos present]

/-- To make a directory again that was made changes nothing, whatever has been added since. -/
theorem ensureDirectories_again (ensured : tree.ensureDirectories path = (.ok (), before))
    (keeps : Keeps before after) : after.ensureDirectories path = (.ok (), after) := by
  rw [ensureDirectories] at ensured ⊢
  split at ensured
  · rename_i empty
    rw [if_pos empty]
  · rename_i nonempty
    obtain ⟨accepted, location, reached⟩ := reaches_of_ensureChain ensured
    have still_reached := keeps.reaches reached
    have refused := createDirectory_of_reaches accepted still_reached
    rw [if_neg nonempty, ensureChain, refused]
    change after.ensureDirectory path = _
    rw [ensureDirectory, refused]
    change (if after.isDirectory path then _ else _, after) = _
    rw [isDirectory_of_reaches accepted still_reached, if_pos rfl]

end LaunchReplay.FileTree
