import LaunchReplay.Proofs.FileTree.Growth
import LaunchReplay.Proofs.FileTree.Segments

/-!
# Changes below a location

What is written to a path that goes on from a directory without steps upwards is below that
directory. Such changes add directories on the way to a location and leave everything else that is
not below it as it was.
-/

namespace LaunchReplay.FileTree

variable {tree before middle after : FileTree} {location base target directory : Location}
  {entry : FileEntry} {name : String} {root path : Path} {inner segments : List PathSegment}

/-- Whether a tree has changed nowhere but below a location, apart from directories that were made
on the way to it. -/
structure Confined (target : Location) (before after : FileTree) : Prop extends
    Keeps before after where
  /-- Elsewhere nothing is other than it was, or it is a directory that leads to the location. -/
  outside : ∀ location, ¬ target <+: location →
    after.entry? location = before.entry? location ∨
      (location <+: target ∧ before.entry? location = none ∧
        after.entry? location = some .directory)

namespace Confined

theorem refl (target : Location) (tree : FileTree) : Confined target tree tree :=
  ⟨.refl tree, fun _ _ => .inl rfl⟩

theorem trans (early : Confined target before middle) (later : Confined target middle after) :
    Confined target before after := by
  refine ⟨early.toKeeps.trans later.toKeeps, fun location outside => ?_⟩
  rcases later.outside location outside with same | ⟨leads, absent, made⟩
  · rw [same]
    exact early.outside location outside
  · rcases early.outside location outside with same | ⟨_, _, held⟩
    · exact .inr ⟨leads, same.symm.trans absent, made⟩
    · rw [absent] at held
      cases held

/-- What is under another name is as it was. -/
theorem entry?_beside {other : String} (confined : Confined (base ++ [name]) before after)
    (apart : name ≠ other) (within : base ++ [other] <+: location) :
    after.entry? location = before.entry? location := by
  rcases confined.outside location (not_prefix_of_ne apart within) with same | ⟨leads, _⟩
  · exact same
  · exact absurd (within.trans leads) (not_prefix_of_ne apart.symm (List.prefix_refl _))

end Confined

/-- Whether a path goes on from another with some segments. -/
structure GoesOn (root : Path) (inner : List PathSegment) (path : Path) : Prop where
  /-- It starts where the other does. -/
  isAbsolute : path.isAbsolute = root.isAbsolute
  /-- Its segments are those of the other, and then these. -/
  segments : path.segments = root.segments ++ inner

theorem GoesOn.join {relative : Path} (other : relative.isAbsolute = false) :
    GoesOn root relative.segments (root.join relative) :=
  ⟨Path.isAbsolute_join other, Path.segments_join other⟩

theorem GoesOn.trans {further : List PathSegment} {last : Path} (early : GoesOn root inner path)
    (later : GoesOn path further last) : GoesOn root (inner ++ further) last :=
  ⟨later.isAbsolute.trans early.isAbsolute, by
    rw [later.segments, early.segments, List.append_assoc]⟩

/-! ## Following segments -/

theorem eq_of_follow_ok {segment : PathSegment} {next : Location} (descends : segment ≠ .up)
    (followed : tree.follow location segment = .ok next) :
    next = location ++ segment.name?.toList := by
  cases (follow_ok_iff.mp followed).2 with
  | here => simp [PathSegment.name?]
  | up => exact absurd rfl descends
  | name => rfl

/-- Segments without steps upwards lead to their names below where they start. -/
theorem eq_of_foldlM_follow_ok (descends : .up ∉ segments)
    (followed : segments.foldlM tree.follow location = .ok target) :
    target = location ++ segments.filterMap PathSegment.name? := by
  induction segments generalizing location with
  | nil => simpa using (Except.ok.inj followed).symm
  | cons segment rest induction =>
      rw [List.mem_cons, not_or] at descends
      rw [List.foldlM_cons] at followed
      obtain ⟨next, stepped, followed⟩ := Outcome.bind_ok.mp followed
      rw [induction descends.2 followed, eq_of_follow_ok (Ne.symm descends.1) stepped]
      cases segment <;> simp [PathSegment.name?, List.filterMap_cons]

theorem placeFor_ok (placed : tree.placeFor path = .ok (directory, some name)) :
    path.check = .ok () ∧ tree.walk path path.segments.dropLast = .ok directory ∧
      path.segments = path.segments.dropLast ++ [.name name] ∧
        tree.isDirectoryAt directory = true := by
  obtain ⟨_, accepted, placed⟩ := Outcome.bind_ok.mp placed
  obtain ⟨reached, walked, placed⟩ := Outcome.bind_ok.mp placed
  split at placed
  · cases placed
  · rename_i last last_eq
    split at placed
    · rename_i inside
      cases last with
      | here => cases placed
      | up => cases placed
      | name name =>
          cases placed
          exact ⟨accepted, walked, (List.dropLast_append_getLast? _ last_eq).symm, inside⟩
    · cases placed

/-- What is placed by a path that goes on from a directory without steps upwards is below it. -/
theorem place_of_goesOn (reached : tree.Reaches root base) (goes_on : GoesOn root inner path)
    (nonempty : inner ≠ []) (descends : .up ∉ inner)
    (placed : tree.placeFor path = .ok (directory, some name)) :
    directory ++ [name] = base ++ inner.filterMap PathSegment.name? := by
  obtain ⟨_, walked, last_name, _⟩ := placeFor_ok placed
  have inner_eq : inner = inner.dropLast ++ [.name name] := by
    rw [goes_on.segments, List.dropLast_append_of_ne_nil nonempty, List.append_assoc] at last_name
    exact List.append_cancel_left last_name
  have root_walked : root.segments.foldlM tree.follow (tree.start root) = .ok base := reached.walked
  have started : tree.start path = tree.start root := by
    rw [start, start, goes_on.isAbsolute]
  rw [walk, started, goes_on.segments, List.dropLast_append_of_ne_nil nonempty, List.foldlM_append]
    at walked
  -- The walk to the place goes through the directory from which the path goes on.
  obtain ⟨place, place_walked, walked⟩ := Outcome.bind_ok.mp walked
  obtain rfl : base = place := Except.ok.inj (root_walked.symm.trans place_walked)
  rw [eq_of_foldlM_follow_ok (fun up => descends (List.mem_of_mem_dropLast up)) walked]
  conv_rhs => rw [inner_eq]
  simp [PathSegment.name?]

/-- Nothing new is placed by a path to a directory on the way to one that is reached. -/
theorem present_of_leads (reached : tree.Reaches root base)
    (absolute : path.isAbsolute = root.isAbsolute) (leads : path.segments <+: root.segments)
    (placed : tree.placeFor path = .ok (directory, some name)) :
    (tree.entry? (directory ++ [name])).isSome := by
  obtain ⟨_, walked, last_name, inside⟩ := placeFor_ok placed
  obtain ⟨rest, root_eq⟩ := leads
  have root_walked : root.segments.foldlM tree.follow (tree.start root) = .ok base := reached.walked
  have started : tree.start path = tree.start root := by
    rw [start, start, absolute]
  rw [walk, started] at walked
  rw [← root_eq, last_name, List.append_assoc, List.foldlM_append] at root_walked
  -- The walk to the directory that is reached goes through the place, so something is there.
  obtain ⟨place, place_walked, root_walked⟩ := Outcome.bind_ok.mp root_walked
  obtain rfl : directory = place := Except.ok.inj (walked.symm.trans place_walked)
  rw [List.singleton_append, List.foldlM_cons] at root_walked
  obtain ⟨next, followed, _⟩ := Outcome.bind_ok.mp root_walked
  rw [follow_name inside] at followed
  split at followed
  · cases followed
  · split at followed
    · assumption
    · cases followed

/-! ## Putting entries -/

theorem find?_putEntry {other : Location} (entries : List (Location × FileEntry)) :
    (putEntry location entry entries).find? (fun held => held.1 == other) =
      if location = other then some (location, entry)
      else entries.find? fun held => held.1 == other := by
  induction entries with
  | nil => by_cases same : location = other <;> simp [putEntry, same]
  | cons head rest induction =>
      obtain ⟨first, held⟩ := head
      rw [putEntry]
      by_cases found : first = location
      · subst found
        by_cases same : first = other <;> simp [same]
      · rw [if_neg found]
        by_cases here : first = other
        · have elsewhere : location ≠ other := fun same => found (here.trans same.symm)
          simp [here, elsewhere]
        · simp [here, induction]

theorem entry?_put {other : Location} (below : location ≠ []) :
    FileTree.entry? (tree.put location entry) other =
      if location = other then some entry else tree.entry? other := by
  cases other with
  | nil => rw [if_neg below]; rfl
  | cons first rest =>
      change ((putEntry location entry tree.entries).find? _).map _ = _
      rw [find?_putEntry]
      split <;> rfl

theorem keeps_put (below : location ≠ [])
    (same : tree.entry? location = some .directory → entry = .directory) :
    Keeps tree (tree.put location entry) where
  workingDirectory := rfl
  kept other held held_eq := by
    rw [entry?_put below]
    split
    · rename_i here
      subst here
      exact ⟨entry, rfl, fun directory => same (directory ▸ held_eq)⟩
    · exact ⟨held, held_eq, id⟩

/-- A file that is put below a location, where there was no directory, changes nothing elsewhere. -/
theorem confined_put_file {content : Bytes} (below : location ≠ []) (within : target <+: location)
    (no_directory : tree.isDirectoryAt location = false) :
    Confined target tree (tree.put location (.file content)) where
  toKeeps := keeps_put below fun held => by
    rw [isDirectoryAt_iff.mpr held] at no_directory
    cases no_directory
  outside other elsewhere := by
    rw [entry?_put below, if_neg]
    · exact .inl rfl
    · rintro rfl
      exact elsewhere within

/-! ## Making directories and writing files -/

theorem createDirectory_ok (made : tree.createDirectory path = .ok after) :
    ∃ directory name, tree.placeFor path = .ok (directory, some name) ∧
      name.utf8ByteSize ≤ Path.nameLimit ∧ tree.entry? (directory ++ [name]) = none ∧
        after = tree.put (directory ++ [name]) .directory := by
  obtain ⟨⟨directory, last⟩, placed, made⟩ := Outcome.bind_ok.mp made
  cases last with
  | none => cases made
  | some name =>
      dsimp only at made
      split at made
      · cases made
      · rename_i fits
        split at made
        · cases made
        · rename_i absent
          cases made
          exact ⟨directory, name, placed, Nat.not_lt.mp fits,
            Option.not_isSome_iff_eq_none.mp absent, rfl⟩

/-- Whether a file that is written to a path is put under a name in a directory. -/
structure Places (tree : FileTree) (path : Path) (directory : Location) (name : String) :
    Prop where
  /-- The path gives that name to something new. -/
  placed : tree.placeFor path = .ok (directory, some name)
  /-- It does not ask for a directory. -/
  open_ended : path.endsInSlash = false
  /-- The name is not too long. -/
  fits : name.utf8ByteSize ≤ Path.nameLimit

theorem writeFile_ok {content : Bytes} (wrote : tree.writeFile path content = .ok after) :
    ∃ directory name, Places tree path directory name ∧
      tree.isDirectoryAt (directory ++ [name]) = false ∧
        after = tree.put (directory ++ [name]) (.file content) := by
  obtain ⟨⟨directory, last⟩, placed, wrote⟩ := Outcome.bind_ok.mp wrote
  cases last with
  | none => cases wrote
  | some name =>
      dsimp only at wrote
      split at wrote
      · cases wrote
      · rename_i open_ended
        split at wrote
        · cases wrote
        · rename_i fits
          split at wrote
          · cases wrote
          · rename_i no_directory
            cases wrote
            exact ⟨directory, name,
              ⟨placed, Bool.eq_false_iff.mpr open_ended, Nat.not_lt.mp fits⟩,
              Bool.eq_false_iff.mpr no_directory, rfl⟩

theorem writeFile_keeps {content : Bytes} (wrote : tree.writeFile path content = .ok after) :
    Keeps tree after := by
  obtain ⟨directory, name, _, no_directory, rfl⟩ := writeFile_ok wrote
  exact (confined_put_file (by simp) (List.prefix_refl _) no_directory).toKeeps

/-- A file can be written under a name only in a directory that is reached. -/
theorem exists_reaches_of_writeFile {content : Bytes} {directory : Path}
    (named : Path.IsName name) (wrote : tree.writeFile (directory.child name) content = .ok after) :
    (directory.child name).check = .ok () ∧ ∃ location, tree.Reaches directory location := by
  obtain ⟨location, _, places, _⟩ := writeFile_ok wrote
  obtain ⟨accepted, walked, _, inside⟩ := placeFor_ok places.placed
  refine ⟨accepted, location, ⟨?_, inside⟩⟩
  rw [Path.segments_child named, List.dropLast_concat] at walked
  rwa [walk, start, Path.isAbsolute_child named] at walked

/-! ## Making directories above others -/

/-- Whether nothing but directories at some locations were added to a tree. -/
def AddsDirectories (within : Location → Prop) (before after : FileTree) : Prop :=
  ∃ added, Extends before after added ∧
    ∀ new ∈ added, new.2 = .directory ∧ new.1 ≠ [] ∧ within new.1

namespace AddsDirectories

variable {within : Location → Prop}

theorem refl (tree : FileTree) : AddsDirectories within tree tree :=
  ⟨[], .refl tree, by simp⟩

theorem trans (early : AddsDirectories within before middle)
    (later : AddsDirectories within middle after) : AddsDirectories within before after := by
  obtain ⟨first, first_grown, first_new⟩ := early
  obtain ⟨second, second_grown, second_new⟩ := later
  exact ⟨_, first_grown.trans second_grown, List.forall_mem_append.mpr ⟨first_new, second_new⟩⟩

theorem keeps (adds : AddsDirectories within before after) : Keeps before after := by
  obtain ⟨_, grown, _⟩ := adds
  exact grown.keeps

/-- What is at a location is as it was, or it is one of the directories that were added, where there
was nothing. -/
theorem entry?_eq_or (adds : AddsDirectories within before after) (location : Location) :
    after.entry? location = before.entry? location ∨
      (within location ∧ before.entry? location = none ∧
        after.entry? location = some .directory) := by
  obtain ⟨added, grown, new_directories⟩ := adds
  by_cases new : location ∈ added.map (·.1)
  · obtain ⟨⟨place, entry⟩, entry_mem, rfl⟩ := List.mem_map.mp new
    obtain ⟨rfl, below, inside⟩ := new_directories _ entry_mem
    exact .inr ⟨inside, grown.entry?_eq_none below entry_mem,
      grown.entry?_of_added below entry_mem⟩
  · exact .inl (grown.entry?_eq new)

/-- Directories that were added on the way to a location change nothing elsewhere. -/
theorem confined (adds : AddsDirectories (· <+: target) before after) :
    Confined target before after :=
  ⟨adds.keeps, fun location _ => adds.entry?_eq_or location⟩

/-- What is a file was one before. -/
theorem entry?_of_file {content : Bytes} (adds : AddsDirectories within before after)
    (held : after.entry? location = some (.file content)) :
    before.entry? location = some (.file content) := by
  rcases adds.entry?_eq_or location with same | ⟨_, _, made⟩
  · rwa [same] at held
  · rw [made] at held
    cases held

end AddsDirectories

variable {within : Location → Prop}

theorem ensureDirectory_adds
    (place : ∀ directory name, tree.placeFor path = .ok (directory, some name) →
      tree.entry? (directory ++ [name]) = none → within (directory ++ [name])) :
    AddsDirectories within tree (tree.ensureDirectory path).2 := by
  rw [ensureDirectory]
  cases made : tree.createDirectory path with
  | error reason => exact .refl tree
  | ok after =>
      obtain ⟨directory, name, placed, _, absent, rfl⟩ := createDirectory_ok made
      refine ⟨_, extends_put (by simp) absent, ?_⟩
      simpa using place directory name placed absent

/-- Whichever directories are made before one that lacks them, each is where its path leads. -/
theorem ensureChain_adds {paths : List Path}
    (places : ∀ path ∈ paths, ∀ grown directory name, Keeps tree grown →
      grown.placeFor path = .ok (directory, some name) →
        grown.entry? (directory ++ [name]) = none → within (directory ++ [name])) :
    AddsDirectories within tree (tree.ensureChain paths).2 := by
  induction paths with
  | nil => exact .refl tree
  | cons path above induction =>
      have above_adds := induction fun other other_mem => places other (by simp [other_mem])
      have path_adds (grown : FileTree) (keeps : Keeps tree grown) :
          AddsDirectories within grown (grown.ensureDirectory path).2 :=
        ensureDirectory_adds fun directory name => places path (by simp) grown directory name keeps
      rw [ensureChain]
      split
      · split
        · rename_i made made_eq
          rw [made_eq] at above_adds
          exact above_adds.trans (path_adds made above_adds.keeps)
        · exact above_adds
      · exact path_adds tree (.refl tree)

theorem ensureDirectories_adds
    (places : ∀ above ∈ path :: path.above, ∀ grown directory name, Keeps tree grown →
      grown.placeFor above = .ok (directory, some name) →
        grown.entry? (directory ++ [name]) = none → within (directory ++ [name])) :
    AddsDirectories within tree (tree.ensureDirectories path).2 := by
  rw [ensureDirectories]
  split
  · exact .refl tree
  · exact ensureChain_adds places

/-- Whatever directories are made, they have names of directories. -/
theorem ensureDirectories_named (path : Path) :
    AddsDirectories (fun location => ∀ name, location.getLast? = some name → Path.IsName name) tree
      (tree.ensureDirectories path).2 := by
  apply ensureDirectories_adds
  intro above _ grown directory name _ placed _ other last
  obtain ⟨_, _, last_name, _⟩ := placeFor_ok placed
  obtain rfl : name = other := by simpa using last
  have name_mem : .name name ∈ above.segments := by
    rw [last_name]
    simp
  exact Path.isName_of_mem_segments name_mem

/-- After directories were made, all names in a directory are still names of files. -/
theorem WellFormed.isName_after (formed : before.WellFormed)
    (adds : AddsDirectories (fun location => ∀ name, location.getLast? = some name →
      Path.IsName name) before after)
    (listed : name ∈ after.namesAt location) : Path.IsName name := by
  obtain ⟨added, grown, new_directories⟩ := adds
  obtain ⟨entry, held⟩ := Option.isSome_iff_exists.mp (mem_namesAt_iff.mp listed)
  rw [entry?_eq_some_iff (by simp), grown.entries, List.mem_append] at held
  rcases held with old | new
  · exact formed.named _ old name (by simp)
  · exact (new_directories _ new).2.2 name (by simp)

/-- A directory that a path lacks on its way from one that is reached is on the way to where it
leads. -/
theorem leads_of_placeFor (reached : tree.Reaches root base) (goes_on : GoesOn root inner path)
    (descends : .up ∉ inner) {above : Path} (absolute : above.isAbsolute = path.isAbsolute)
    (first : above.segments <+: path.segments)
    (placed : tree.placeFor above = .ok (directory, some name))
    (absent : tree.entry? (directory ++ [name]) = none) :
    directory ++ [name] <+: base ++ inner.filterMap PathSegment.name? := by
  have absolute : above.isAbsolute = root.isAbsolute := absolute.trans goes_on.isAbsolute
  -- A path on the way to what is reached would have its directory already.
  have lacking : ¬ above.segments <+: root.segments := fun leads => by
    have present := present_of_leads reached absolute leads placed
    rw [absent] at present
    cases present
  rw [goes_on.segments] at first
  obtain ⟨head, head_eq⟩ :=
    (List.prefix_or_prefix_of_prefix first (List.prefix_append _ _)).resolve_left lacking
  rw [← head_eq, List.prefix_append_right_inj] at first
  have nonempty : head ≠ [] := by
    rintro rfl
    exact lacking ⟨[], by simpa using head_eq.symm⟩
  rw [place_of_goesOn reached ⟨absolute, head_eq.symm⟩ nonempty (fun up => descends (first.mem up))
    placed, List.prefix_append_right_inj]
  exact first.filterMap _

/-- Making a directory with those above it makes nothing that is not on the way to it. -/
theorem ensureDirectories_leads (reached : tree.Reaches root base)
    (goes_on : GoesOn root inner path) (descends : .up ∉ inner) :
    AddsDirectories (· <+: base ++ inner.filterMap PathSegment.name?) tree
      (tree.ensureDirectories path).2 := by
  apply ensureDirectories_adds
  intro above above_mem grown directory name keeps placed absent
  have leads : above.isAbsolute = path.isAbsolute ∧ above.segments <+: path.segments := by
    rcases List.mem_cons.mp above_mem with rfl | above_mem
    · exact ⟨rfl, List.prefix_refl _⟩
    · exact Path.segments_of_mem_above above_mem
  exact leads_of_placeFor (keeps.reaches reached) goes_on descends leads.1 leads.2 placed absent

/-- Writing a file to a path that goes on from a location changes nothing elsewhere. -/
theorem writeFile_confined {content : Bytes} {further : List PathSegment}
    (reached : tree.Reaches root base) (goes_on : GoesOn root (inner ++ further) path)
    (nonempty : further ≠ []) (descends : .up ∉ inner ++ further)
    (wrote : tree.writeFile path content = .ok after) :
    Confined (base ++ inner.filterMap PathSegment.name?) tree after := by
  obtain ⟨directory, name, places, no_directory, rfl⟩ := writeFile_ok wrote
  refine confined_put_file (by simp) ?_ no_directory
  rw [place_of_goesOn reached goes_on (by simp [nonempty]) descends places.placed,
    List.filterMap_append, ← List.append_assoc]
  exact List.prefix_append _ _

end LaunchReplay.FileTree
