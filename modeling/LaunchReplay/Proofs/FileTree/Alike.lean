import LaunchReplay.Proofs.FileTree.Confinement

/-!
# Trees that differ in some files

Two trees that differ in nothing but files of certain names have the same directories, and a path
that goes on from one of these without such a name leads to the same place in both.
-/

namespace LaunchReplay.FileTree

variable {before after last tree : FileTree} {changed : String → Prop} {location base : Location}
  {segments : List PathSegment} {root relative : Path}

/-- Whether two trees differ in nothing but files of certain names, wherever these are. -/
structure AlikeBut (changed : String → Prop) (before after : FileTree) : Prop where
  /-- Relative paths start where they did. -/
  workingDirectory : after.workingDirectory = before.workingDirectory
  /-- The same directories are there. -/
  directories : ∀ location, after.isDirectoryAt location = before.isDirectoryAt location
  /-- Whatever has another name is the same. -/
  others : ∀ location name, ¬changed name →
    after.entry? (location ++ [name]) = before.entry? (location ++ [name])

namespace AlikeBut

theorem trans (early : AlikeBut changed before after) (later : AlikeBut changed after last) :
    AlikeBut changed before last where
  workingDirectory := later.workingDirectory.trans early.workingDirectory
  directories location := (later.directories location).trans (early.directories location)
  others location name unchanged :=
    (later.others location name unchanged).trans (early.others location name unchanged)

/-- Only a file of a changed name is put anew. -/
theorem put_file {name : String} {content : Bytes} (covered : changed name)
    (no_directory : tree.isDirectoryAt (location ++ [name]) = false) :
    AlikeBut changed tree (tree.put (location ++ [name]) (.file content)) where
  workingDirectory := rfl
  directories other := by
    rw [isDirectoryAt, entry?_put (by simp)]
    split
    · rename_i here
      rw [← here, no_directory]
      rfl
    · rfl
  others other label unchanged := by
    rw [entry?_put (by simp), if_neg]
    intro same
    rw [List.append_singleton_inj] at same
    exact unchanged (same.2 ▸ covered)

variable (alike : AlikeBut changed before after)

include alike

theorem start_eq (path : Path) : after.start path = before.start path := by
  rw [start, start, alike.workingDirectory]

theorem follow_to_directory {segment : PathSegment} {next : Location}
    (next_inside : before.isDirectoryAt next = true)
    (followed : before.follow location segment = .ok next) :
    after.follow location segment = .ok next := by
  rw [follow_ok_iff] at followed ⊢
  obtain ⟨inside, follows⟩ := followed
  refine ⟨(alike.directories location).trans inside, ?_⟩
  cases follows with
  | here => exact .here
  | up => exact .up
  | name fits present =>
      have held := isDirectoryAt_iff.mp ((alike.directories _).trans next_inside)
      exact .name fits (by rw [held]; rfl)

/-- Segments that lead to a directory still do, since whatever they lead through is one too. -/
theorem walk_to_directory (inside : before.isDirectoryAt base = true)
    (walked : segments.foldlM before.follow location = .ok base) :
    segments.foldlM after.follow location = .ok base := by
  induction segments generalizing location with
  | nil => exact walked
  | cons segment rest induction =>
      rw [List.foldlM_cons] at walked ⊢
      obtain ⟨next, followed, walked⟩ := Outcome.bind_ok.mp walked
      have next_inside : before.isDirectoryAt next = true := by
        cases rest with
        | nil => exact Except.ok.inj walked ▸ inside
        | cons later more =>
            rw [List.foldlM_cons] at walked
            obtain ⟨_, next_followed, _⟩ := Outcome.bind_ok.mp walked
            exact (follow_ok_iff.mp next_followed).1
      exact Outcome.bind_ok.mpr
        ⟨next, alike.follow_to_directory next_inside followed, induction walked⟩

theorem reaches (reached : before.Reaches root base) : after.Reaches root base where
  walked := by
    rw [walk, alike.start_eq]
    exact alike.walk_to_directory reached.inside reached.walked
  inside := (alike.directories base).trans reached.inside

theorem follow_eq {segment : PathSegment} (plain : ∀ name, segment = .name name → ¬changed name)
    (location : Location) : after.follow location segment = before.follow location segment := by
  unfold follow
  rw [alike.directories]
  cases segment with
  | here => rfl
  | up => rfl
  | name name => simp only [alike.others location name (plain name rfl)]

theorem foldlM_follow_eq (plain : ∀ name, .name name ∈ segments → ¬changed name)
    (location : Location) :
    segments.foldlM after.follow location = segments.foldlM before.follow location :=
  Outcome.foldlM_congr
    (fun _ segment_mem reached =>
      alike.follow_eq (fun name name_eq => plain name (name_eq ▸ segment_mem)) reached)
    location

/-- A path without changed names that goes on from a directory leads to the same place. -/
theorem resolve_join (reached : before.Reaches root base)
    (plain : ∀ name, .name name ∈ relative.segments → ¬changed name) :
    after.resolve (root.join relative) = before.resolve (root.join relative) := by
  have walk_eq : after.walk (root.join relative) (root.join relative).segments =
      before.walk (root.join relative) (root.join relative).segments := by
    cases absolute : relative.isAbsolute with
    | true =>
        have join_eq : root.join relative = relative := by rw [Path.join, absolute]; rfl
        rw [join_eq, walk, walk, alike.start_eq]
        exact alike.foldlM_follow_eq plain _
    | false =>
        have root_walked : root.segments.foldlM before.follow (before.start root) = .ok base :=
          reached.walked
        have started : before.start (root.join relative) = before.start root := by
          rw [start, start, Path.isAbsolute_join absolute]
        rw [walk, walk, alike.start_eq, started, Path.segments_join absolute, List.foldlM_append,
          List.foldlM_append, root_walked, alike.walk_to_directory reached.inside root_walked]
        exact alike.foldlM_follow_eq plain base
  simp only [resolve, walk_eq, alike.directories]

end AlikeBut

end LaunchReplay.FileTree
