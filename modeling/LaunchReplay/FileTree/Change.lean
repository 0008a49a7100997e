import LaunchReplay.FileTree.Basic

/-!
# Changes to file trees

Writing files, making directories and removing what is at a location. Each change is confined to
the locations that it names.
-/

namespace LaunchReplay.FileTree

/-- Entries with one replaced or added at the end. -/
def putEntry (location : Location) (entry : FileEntry) :
    List (Location × FileEntry) → List (Location × FileEntry)
  | [] => [(location, entry)]
  | (other, held) :: rest =>
    if other = location then (location, entry) :: rest
    else (other, held) :: putEntry location entry rest

theorem mem_map_putEntry {location other : Location} {entry : FileEntry}
    {entries : List (Location × FileEntry)}
    (member : other ∈ (putEntry location entry entries).map (·.1)) :
    other = location ∨ other ∈ entries.map (·.1) := by
  induction entries with
  | nil => exact .inl (by simpa [putEntry] using member)
  | cons head rest induction =>
      obtain ⟨first, held⟩ := head
      unfold putEntry at member
      split at member
      · rename_i same
        rw [List.map_cons, List.mem_cons] at member
        rcases member with found | found
        · exact .inl found
        · exact .inr (by rw [List.map_cons]; exact List.mem_cons_of_mem _ found)
      · rw [List.map_cons, List.mem_cons] at member
        rcases member with found | found
        · exact .inr (by rw [List.map_cons, found]; exact List.mem_cons_self)
        · rcases induction found with found | found
          · exact .inl found
          · exact .inr (by rw [List.map_cons]; exact List.mem_cons_of_mem _ found)

theorem nodup_putEntry (location : Location) (entry : FileEntry)
    {entries : List (Location × FileEntry)} (unique : (entries.map (·.1)).Nodup) :
    ((putEntry location entry entries).map (·.1)).Nodup := by
  induction entries with
  | nil => simp [putEntry]
  | cons head rest induction =>
      obtain ⟨first, held⟩ := head
      rw [List.map_cons, List.nodup_cons] at unique
      unfold putEntry
      split
      · rename_i same
        rw [List.map_cons, List.nodup_cons]
        exact ⟨same ▸ unique.1, unique.2⟩
      · rename_i other
        rw [List.map_cons, List.nodup_cons]
        refine ⟨fun member => ?_, induction unique.2⟩
        rcases mem_map_putEntry member with found | found
        · exact other found
        · exact unique.1 found

/-- Puts an entry at a location, in place of any that is there. -/
def put (tree : FileTree) (location : Location) (entry : FileEntry) : FileTree :=
  { tree with
    entries := putEntry location entry tree.entries
    unique := nodup_putEntry location entry tree.unique }

/-- Removes what is at a location, with all below it. -/
def removeAt (tree : FileTree) (location : Location) : FileTree :=
  { tree with
    entries := tree.entries.filter fun entry => !location.isPrefixOf entry.1
    unique := List.Nodup.sublist (List.Sublist.map _ List.filter_sublist) tree.unique }

/-- Removes all that is below a location. -/
def removeBelow (tree : FileTree) (location : Location) : FileTree :=
  { tree with
    entries := tree.entries.filter fun entry =>
      !location.isPrefixOf entry.1 || entry.1 == location
    unique := List.Nodup.sublist (List.Sublist.map _ List.filter_sublist) tree.unique }

/-- The directory and the name that a path gives to something new, if its last segment is a name. -/
def placeFor (tree : FileTree) (path : Path) : Except FileError (Location × Option String) := do
  path.check
  let directory ← tree.walk path path.segments.dropLast
  match path.segments.getLast? with
  | none => .ok (directory, none)
  | some last =>
    if tree.isDirectoryAt directory then
      match last with
      | .name name => .ok (directory, some name)
      | .here | .up => .ok (directory, none)
    else .error .notDirectory

/-- Writes a file, in place of any that is there; a directory stays as it is. -/
def writeFile (tree : FileTree) (path : Path) (content : Bytes) : Except FileError FileTree := do
  match ← tree.placeFor path with
  | (_, none) => .error .isDirectory
  | (directory, some name) =>
    if path.endsInSlash then .error .isDirectory
    else if Path.nameLimit < name.utf8ByteSize then .error .nameTooLong
    else if tree.isDirectoryAt (directory ++ [name]) then .error .isDirectory
    else .ok (tree.put (directory ++ [name]) (.file content))

/-- Makes one directory in an existing one. -/
def createDirectory (tree : FileTree) (path : Path) : Except FileError FileTree := do
  match ← tree.placeFor path with
  | (_, none) => .error .alreadyExists
  | (directory, some name) =>
    if Path.nameLimit < name.utf8ByteSize then .error .nameTooLong
    else if (tree.entry? (directory ++ [name])).isSome then .error .alreadyExists
    else .ok (tree.put (directory ++ [name]) .directory)

/-- Makes one directory unless it is there. -/
def ensureDirectory (tree : FileTree) (path : Path) : Except FileError Unit × FileTree :=
  match tree.createDirectory path with
  | .ok made => (.ok (), made)
  | .error error => (if tree.isDirectory path then .ok () else .error error, tree)

/-- Makes the first of some directories, after those that follow as far as it lacks them. -/
def ensureChain (tree : FileTree) : List Path → Except FileError Unit × FileTree
  | [] => (.ok (), tree)
  | path :: above =>
    match tree.createDirectory path with
    | .error .notFound =>
      match tree.ensureChain above with
      | (.ok (), made) => made.ensureDirectory path
      | failed => failed
    | _ => tree.ensureDirectory path

/-- Makes a directory with all missing directories above it; those that it made before it failed
stay. -/
def ensureDirectories (tree : FileTree) (path : Path) : Except FileError Unit × FileTree :=
  if path.text.isEmpty then (.ok (), tree) else tree.ensureChain (path :: path.above)

/-- Removes a file, or a directory after all that is in it, and says whether nothing was in the way.
An emptied directory stays if the path does not end in its name, which is no success, or if the path
goes through what was in it and leads nowhere any more. -/
def remove (tree : FileTree) (path : Path) : Bool × FileTree :=
  match tree.resolve path with
  | .error _ => (false, tree)
  | .ok location =>
    let emptied := tree.removeBelow location
    match emptied.placeFor path with
    | .ok (_, some _) => (true, emptied.removeAt location)
    | .ok (_, none) => (false, emptied)
    | .error error => (error == .notFound, emptied)

end LaunchReplay.FileTree
