import LaunchReplay.FileTree.Change
import LaunchReplay.Proofs.FileTree.Lookup

/-!
# Trees that only grow

Making a directory, or writing a file where there was none, adds one entry and leaves all others as
they are. Whatever a path led to before, it still leads to.
-/

namespace LaunchReplay.FileTree

variable {tree before after last : FileTree} {added late : List (Location × FileEntry)}
  {location : Location} {entry : FileEntry} {directory : Path} {name : String}

/-! ## What is kept -/

/-- Whether all that a tree has is also in another, and no directory has become a file. -/
structure Keeps (before after : FileTree) : Prop where
  /-- Relative paths start where they did. -/
  workingDirectory : after.workingDirectory = before.workingDirectory
  /-- Whatever was there, is there. -/
  kept : ∀ location entry, before.entry? location = some entry →
    ∃ later, after.entry? location = some later ∧ (entry = .directory → later = .directory)

namespace Keeps

theorem refl (tree : FileTree) : Keeps tree tree :=
  ⟨rfl, fun _ entry held => ⟨entry, held, id⟩⟩

theorem trans (early : Keeps before after) (later : Keeps after last) : Keeps before last where
  workingDirectory := later.workingDirectory.trans early.workingDirectory
  kept location entry held := by
    obtain ⟨middle, middle_held, middle_directory⟩ := early.kept location entry held
    obtain ⟨final, final_held, final_directory⟩ := later.kept location middle middle_held
    exact ⟨final, final_held, final_directory ∘ middle_directory⟩

theorem isDirectoryAt (keeps : Keeps before after)
    (inside : before.isDirectoryAt location = true) : after.isDirectoryAt location = true := by
  obtain ⟨later, held, same⟩ := keeps.kept location _ (isDirectoryAt_iff.mp inside)
  rw [isDirectoryAt_iff, held, same rfl]

theorem follow_ok (keeps : Keeps before after) {segment : PathSegment} {next : Location}
    (followed : before.follow location segment = .ok next) :
    after.follow location segment = .ok next := by
  rw [follow_ok_iff] at followed ⊢
  obtain ⟨inside, follows⟩ := followed
  refine ⟨keeps.isDirectoryAt inside, ?_⟩
  cases follows with
  | here => exact .here
  | up => exact .up
  | name fits present =>
      obtain ⟨entry, held⟩ := Option.isSome_iff_exists.mp present
      obtain ⟨later, later_held, _⟩ := keeps.kept _ entry held
      exact .name fits (by rw [later_held]; rfl)

theorem walk_ok (keeps : Keeps before after) {path : Path} {segments : List PathSegment}
    (walked : before.walk path segments = .ok location) :
    after.walk path segments = .ok location := by
  have started : after.start path = before.start path := by
    rw [start, start, keeps.workingDirectory]
  rw [walk] at walked ⊢
  rw [started]
  generalize before.start path = place at walked
  induction segments generalizing place with
  | nil => exact walked
  | cons segment rest induction =>
      rw [List.foldlM_cons] at walked ⊢
      obtain ⟨next, followed, walked⟩ := Outcome.bind_ok.mp walked
      exact Outcome.bind_ok.mpr ⟨next, keeps.follow_ok followed, induction next walked⟩

/-- A directory that was reached is still reached. -/
theorem reaches (keeps : Keeps before after) {path : Path}
    (reached : before.Reaches path location) : after.Reaches path location :=
  ⟨keeps.walk_ok reached.walked, keeps.isDirectoryAt reached.inside⟩

end Keeps

/-! ## What is added -/

/-- Whether a tree has the entries of another and then some more. -/
structure Extends (before after : FileTree) (added : List (Location × FileEntry)) : Prop where
  /-- The entries of the one come first. -/
  entries : after.entries = before.entries ++ added
  /-- Relative paths start where they did. -/
  workingDirectory : after.workingDirectory = before.workingDirectory

theorem Extends.refl (tree : FileTree) : Extends tree tree [] :=
  ⟨(List.append_nil _).symm, rfl⟩

theorem Extends.trans (early : Extends before after added) (later : Extends after last late) :
    Extends before last (added ++ late) :=
  ⟨by rw [later.entries, early.entries, List.append_assoc],
    later.workingDirectory.trans early.workingDirectory⟩

namespace Extends

theorem entry?_of_some (grown : Extends before after added)
    (held : before.entry? location = some entry) : after.entry? location = some entry := by
  by_cases below : location = []
  · subst below
    exact held
  · rw [entry?_eq_some_iff below] at held ⊢
    rw [grown.entries]
    exact List.mem_append_left added held

theorem entry?_of_added (grown : Extends before after added) (below : location ≠ [])
    (new : (location, entry) ∈ added) : after.entry? location = some entry := by
  rw [entry?_eq_some_iff below, grown.entries]
  exact List.mem_append_right before.entries new

/-- Where something new is, nothing was. -/
theorem entry?_eq_none (grown : Extends before after added) (below : location ≠ [])
    (new : (location, entry) ∈ added) : before.entry? location = none := by
  have unique := after.unique
  rw [grown.entries, List.map_append, List.nodup_append] at unique
  rw [Option.eq_none_iff_forall_ne_some]
  intro old held
  rw [entry?_eq_some_iff below] at held
  exact unique.2.2 location (List.mem_map_of_mem held) location (List.mem_map_of_mem new) rfl

/-- Elsewhere than at the new locations everything is as it was. -/
theorem entry?_eq (grown : Extends before after added) (old : location ∉ added.map (·.1)) :
    after.entry? location = before.entry? location := by
  by_cases below : location = []
  · subst below
    rfl
  · apply Option.ext
    intro entry
    rw [entry?_eq_some_iff below, entry?_eq_some_iff below, grown.entries, List.mem_append,
      or_iff_left]
    exact fun new => old (List.mem_map_of_mem new)

theorem keeps (grown : Extends before after added) : Keeps before after :=
  ⟨grown.workingDirectory, fun _ entry held => ⟨entry, grown.entry?_of_some held, id⟩⟩

/-- A directory that was reached is still reached. -/
theorem reaches (grown : Extends before after added) {path : Path}
    (reached : before.Reaches path location) : after.Reaches path location :=
  grown.keeps.reaches reached

/-- A path to a name leads where it did unless something new is under that name. -/
theorem lookup_child_eq (grown : Extends before after added)
    (reached : before.Reaches directory location) (named : Path.IsName name)
    (old : location ++ [name] ∉ added.map (·.1)) :
    after.lookup (directory.child name) = before.lookup (directory.child name) := by
  rw [lookup_child reached named, lookup_child (grown.reaches reached) named, grown.entry?_eq old]

theorem isFile_child_eq (grown : Extends before after added)
    (reached : before.Reaches directory location) (named : Path.IsName name)
    (old : location ++ [name] ∉ added.map (·.1)) :
    after.isFile (directory.child name) = before.isFile (directory.child name) := by
  rw [isFile, isFile, grown.lookup_child_eq reached named old]

theorem readFile_child_eq (grown : Extends before after added)
    (reached : before.Reaches directory location) (named : Path.IsName name)
    (old : location ++ [name] ∉ added.map (·.1)) :
    after.readFile (directory.child name) = before.readFile (directory.child name) := by
  rw [readFile, readFile, grown.lookup_child_eq reached named old]

theorem readText_child_eq (grown : Extends before after added)
    (reached : before.Reaches directory location) (named : Path.IsName name)
    (old : location ++ [name] ∉ added.map (·.1)) :
    after.readText (directory.child name) = before.readText (directory.child name) := by
  rw [readText, readText, grown.readFile_child_eq reached named old]

/-- A directory lists its old names and then those of the new entries in it. -/
theorem namesAt_eq (grown : Extends before after added) :
    after.namesAt location = before.namesAt location ++
      added.filterMap fun entry => nameIn? location entry.1 := by
  rw [namesAt, grown.entries, List.filterMap_append]
  rfl

end Extends

/-- What is under one name is not under another. -/
theorem not_prefix_of_ne {other : String} {inner : Location} (apart : name ≠ other)
    (within : location ++ [other] <+: inner) : ¬ location ++ [name] <+: inner := by
  intro crossed
  have same : location ++ [name] = location ++ [other] :=
    (List.prefix_of_prefix_length_le crossed within (by simp)).eq_of_length (by simp)
  exact apart (by simpa using same)

/-- Where nothing is new at or below a location, nothing is new at any place in it. -/
theorem notMem_of_outside {inner : Location} (outside : ∀ entry ∈ added, ¬ location <+: entry.1)
    (within : location <+: inner) : inner ∉ added.map (·.1) := by
  intro new
  obtain ⟨entry, entry_mem, rfl⟩ := List.mem_map.mp new
  exact outside entry entry_mem within

/-! ## Changes that make a tree grow -/

theorem putEntry_of_absent {entries : List (Location × FileEntry)}
    (absent : location ∉ entries.map (·.1)) :
    putEntry location entry entries = entries ++ [(location, entry)] := by
  induction entries with
  | nil => rfl
  | cons head rest induction =>
      obtain ⟨other, held⟩ := head
      rw [List.map_cons, List.mem_cons, not_or] at absent
      rw [putEntry, if_neg (Ne.symm absent.1), induction absent.2]
      rfl

/-- Putting an entry where there is none adds it. -/
theorem extends_put (below : location ≠ []) (absent : tree.entry? location = none) :
    Extends tree (tree.put location entry) [(location, entry)] where
  entries := by
    apply putEntry_of_absent
    intro listed
    obtain ⟨⟨other, held⟩, held_mem, rfl⟩ := List.mem_map.mp listed
    rw [(entry?_eq_some_iff below).mpr held_mem] at absent
    cases absent
  workingDirectory := rfl

theorem placeFor_child (reached : tree.Reaches directory location) (named : Path.IsName name) :
    tree.placeFor (directory.child name) = (do
      (directory.child name).check
      .ok (location, some name)) := by
  have started : tree.start (directory.child name) = tree.start directory := by
    rw [start, start, Path.isAbsolute_child named]
  have walked : tree.walk (directory.child name) directory.segments = .ok location := by
    rw [walk, started]
    exact reached.walked
  rw [placeFor, Path.segments_child named, List.dropLast_concat, walked, List.getLast?_concat]
  cases (directory.child name).check with
  | error error => rfl
  | ok accepted => exact if_pos reached.inside

/-- A file that is written under a name is put there, where there was no directory. -/
theorem writeFile_child_ok {content : Bytes} (reached : tree.Reaches directory location)
    (named : Path.IsName name)
    (wrote : tree.writeFile (directory.child name) content = .ok after) :
    (directory.child name).check = .ok () ∧ name.utf8ByteSize ≤ Path.nameLimit ∧
      tree.entry? (location ++ [name]) ≠ some .directory ∧
        after = tree.put (location ++ [name]) (.file content) := by
  rw [writeFile, placeFor_child reached named] at wrote
  obtain ⟨place, placed, wrote⟩ := Outcome.bind_ok.mp wrote
  obtain ⟨_, accepted, placed⟩ := Outcome.bind_ok.mp placed
  cases placed
  dsimp only at wrote
  rw [Path.endsInSlash_child named, if_neg Bool.false_ne_true] at wrote
  split at wrote
  · cases wrote
  · rename_i fits
    split at wrote
    · cases wrote
    · rename_i no_directory
      cases wrote
      exact ⟨accepted, Nat.not_lt.mp fits, fun held => no_directory (isDirectoryAt_iff.mpr held),
        rfl⟩

/-- A file that is written under a name where there was none is added, and is what is read there. -/
theorem writeFile_fresh_ok {content : Bytes} (reached : tree.Reaches directory location)
    (named : Path.IsName name) (free : tree.isFile (directory.child name) = false)
    (wrote : tree.writeFile (directory.child name) content = .ok after) :
    Extends tree after [(location ++ [name], .file content)] ∧
      after.readFile (directory.child name) = .ok content := by
  obtain ⟨accepted, fits, no_directory, rfl⟩ := writeFile_child_ok reached named wrote
  have absent : tree.entry? (location ++ [name]) = none := by
    cases held : tree.entry? (location ++ [name]) with
    | none => rfl
    | some entry =>
        cases entry with
        | directory => exact absurd held no_directory
        | file old =>
            rw [isFile, (lookup_child_ok reached named).mpr ⟨accepted, fits, held⟩] at free
            cases free
  have grown : Extends tree (tree.put (location ++ [name]) (.file content)) _ :=
    extends_put (by simp) absent
  refine ⟨grown, ?_⟩
  have held := grown.entry?_of_added (by simp) List.mem_cons_self
  rw [readFile, (lookup_child_ok (grown.reaches reached) named).mpr ⟨accepted, fits, held⟩]
  rfl

theorem createDirectory_child (reached : tree.Reaches directory location)
    (named : Path.IsName name) (accepted : (directory.child name).check = .ok ())
    (fits : name.utf8ByteSize ≤ Path.nameLimit) :
    tree.createDirectory (directory.child name) =
      if (tree.entry? (location ++ [name])).isSome then .error .alreadyExists
      else .ok (tree.put (location ++ [name]) .directory) := by
  rw [createDirectory, placeFor_child reached named, accepted]
  exact if_neg (Nat.not_lt.mpr fits)

/-- A directory that is ensured under a name was there, or is put where there was nothing. -/
theorem ensureDirectories_child_ok (reached : tree.Reaches directory location)
    (named : Path.IsName name) (accepted : (directory.child name).check = .ok ())
    (fits : name.utf8ByteSize ≤ Path.nameLimit)
    (ensured : tree.ensureDirectories (directory.child name) = (.ok (), after)) :
    (after = tree ∧ tree.entry? (location ++ [name]) = some .directory) ∨
      after = tree.put (location ++ [name]) .directory ∧
        tree.entry? (location ++ [name]) = none := by
  have nonempty : (directory.child name).text.isEmpty = false := by
    rw [Path.check] at accepted
    cases empty : (directory.child name).text.isEmpty with
    | false => rfl
    | true =>
        rw [empty] at accepted
        split at accepted <;> cases accepted
  have made := createDirectory_child reached named accepted fits
  rw [ensureDirectories, nonempty, if_neg Bool.false_ne_true, ensureChain, made] at ensured
  cases held : tree.entry? (location ++ [name]) with
  | none =>
      rw [held] at made ensured
      change tree.ensureDirectory (directory.child name) = _ at ensured
      rw [ensureDirectory, made] at ensured
      cases ensured
      exact .inr ⟨rfl, rfl⟩
  | some entry =>
      rw [held] at made ensured
      change tree.ensureDirectory (directory.child name) = _ at ensured
      rw [ensureDirectory, made] at ensured
      change (if tree.isDirectory (directory.child name) then _ else _, tree) = _ at ensured
      split at ensured
      · rename_i directory_found
        cases ensured
        refine .inl ⟨rfl, ?_⟩
        rw [isDirectory] at directory_found
        split at directory_found
        · rename_i found
          rw [← held]
          exact ((lookup_child_ok reached named).mp found).2.2
        · cases directory_found
      · cases ensured

/-- After a directory was ensured under a name it is reached through that name. Either it was there
and nothing changed, or nothing is new but itself, and it is empty. -/
theorem ensureDirectories_child_grows (formed : tree.WellFormed)
    (reached : tree.Reaches directory location) (named : Path.IsName name)
    (accepted : (directory.child name).check = .ok ()) (fits : name.utf8ByteSize ≤ Path.nameLimit)
    (ensured : tree.ensureDirectories (directory.child name) = (.ok (), after)) :
    ∃ added, Extends tree after added ∧ (∀ entry ∈ added, entry.1 = location ++ [name]) ∧
      after.Reaches (directory.child name) (location ++ [name]) ∧
      (after = tree ∨ after.namesAt (location ++ [name]) = []) := by
  rcases ensureDirectories_child_ok reached named accepted fits ensured with
    ⟨rfl, held⟩ | ⟨rfl, absent⟩
  · exact ⟨[], .refl after, by simp, reached.child named fits held, .inl rfl⟩
  · have grown : Extends tree (tree.put (location ++ [name]) .directory) _ :=
      extends_put (by simp) absent
    have held := grown.entry?_of_added (by simp) List.mem_cons_self
    refine ⟨_, grown, by simp, (grown.reaches reached).child named fits held, .inr ?_⟩
    have no_directory : tree.isDirectoryAt (location ++ [name]) = false := by
      rw [isDirectoryAt, absent]
      rfl
    have not_within : nameIn? (location ++ [name]) (location ++ [name]) = none := by
      apply Option.eq_none_iff_forall_ne_some.mpr
      intro file found
      simpa using nameIn?_eq_some_iff.mp found
    rw [grown.namesAt_eq, formed.namesAt_of_absent no_directory]
    simp [not_within]

end LaunchReplay.FileTree
