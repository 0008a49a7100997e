import LaunchReplay.Proofs.Capture.Scan
import Mathlib.Data.List.Sort

/-!
# What two trees have in common for a scan

Discovery order is decided by the names alone, so two directories with the same files that fit a
pattern, listed in whatever order, are scanned alike, and what is read of them is the same.
-/

namespace LaunchReplay

/-! ## Discovery order -/

namespace Naming.DiscoveryKey

/-- When one key precedes another, by the numbers the two have. -/
theorem precedes_iff (left right : DiscoveryKey) : left.precedes right = true ↔
    match left.number, right.number with
    | none, none => left.name ≤ right.name
    | none, some _ => True
    | some _, none => False
    | some first, some second => first < second ∨ first = second ∧ left.name ≤ right.name := by
  obtain ⟨_ | number, name⟩ := left <;> obtain ⟨_ | other, label⟩ := right <;>
    simp only [precedes, Bool.or_eq_true, Bool.and_eq_true, Bool.not_eq_true', beq_iff_eq,
      decide_eq_true_eq, decide_eq_false_iff_not, String.not_lt, Bool.false_eq_true]

theorem precedes_trans {first second third : DiscoveryKey} (early : first.precedes second = true)
    (late : second.precedes third = true) : first.precedes third = true := by
  rw [precedes_iff] at *
  obtain ⟨_ | number, name⟩ := first <;> obtain ⟨_ | middle, between⟩ := second <;>
    obtain ⟨_ | last, final⟩ := third <;> try trivial
  · exact String.le_trans early late
  · rcases early with below | ⟨rfl, early⟩ <;> rcases late with later | ⟨rfl, late⟩
    · exact .inl (below.trans later)
    · exact .inl below
    · exact .inl later
    · exact .inr ⟨rfl, String.le_trans early late⟩

theorem precedes_total (left right : DiscoveryKey) :
    (left.precedes right || right.precedes left) = true := by
  rw [Bool.or_eq_true, precedes_iff, precedes_iff]
  obtain ⟨_ | number, name⟩ := left <;> obtain ⟨_ | other, label⟩ := right
  · exact String.le_total name label
  · exact .inl trivial
  · exact .inr trivial
  · rcases Nat.lt_trichotomy number other with below | rfl | above
    · exact .inl (.inl below)
    · rcases String.le_total name label with before | after
      · exact .inl (.inr ⟨rfl, before⟩)
      · exact .inr (.inr ⟨rfl, after⟩)
    · exact .inr (.inl above)

/-- Keys that precede each other are of one name. -/
theorem name_eq_of_precedes {left right : DiscoveryKey} (before : left.precedes right = true)
    (after : right.precedes left = true) : left.name = right.name := by
  rw [precedes_iff] at before after
  obtain ⟨_ | number, name⟩ := left <;> obtain ⟨_ | other, label⟩ := right
  · exact String.le_antisymm before after
  · exact after.elim
  · exact before.elim
  · rcases before with below | ⟨rfl, before⟩
    · exact absurd after (by simp only; omega)
    · exact String.le_antisymm before (after.resolve_left (Nat.lt_irrefl _)).2

end Naming.DiscoveryKey

namespace Artifact

open Naming (DiscoveryKey)

theorem pairwise_discoveryOrder (names : List String) :
    (discoveryOrder names).Pairwise fun left right =>
      (DiscoveryKey.ofName left).precedes (.ofName right) = true :=
  List.pairwise_mergeSort
    (fun first second third =>
      @DiscoveryKey.precedes_trans (.ofName first) (.ofName second) (.ofName third))
    (fun left right => DiscoveryKey.precedes_total (.ofName left) (.ofName right)) names

/-- Discovery order does not depend on the order in which names are listed. -/
theorem discoveryOrder_of_perm {names others : List String} (same : names.Perm others) :
    discoveryOrder names = discoveryOrder others :=
  List.Perm.eq_of_pairwise
    (fun _ _ _ _ before after => DiscoveryKey.name_eq_of_precedes before after)
    (pairwise_discoveryOrder names) (pairwise_discoveryOrder others)
    ((perm_discoveryOrder names).trans (same.trans (perm_discoveryOrder others).symm))

/-- The files that fit a pattern are found in discovery order. -/
theorem pairwise_names {tree : FileTree} {directory : Path} {pattern : FilePattern}
    {found : List String} (run : names tree directory pattern = .ok found) :
    found.Pairwise fun left right =>
      (DiscoveryKey.ofName left).precedes (.ofName right) = true := by
  rw [names] at run
  split at run
  · cases run
    exact pairwise_discoveryOrder _
  · cases run
    exact .nil
  · cases run

/-- The files that fit a pattern are found as they are once put in discovery order. -/
theorem names_eq_of_perm {tree : FileTree} {directory : Path} {pattern : FilePattern}
    {listed ordered : List String} (list_ok : tree.list directory = .ok listed)
    (same : (listed.filter fun name =>
      tree.isFile (directory.child name) && pattern.fits name).Perm ordered)
    (sorted : ordered.Pairwise fun left right =>
      (DiscoveryKey.ofName left).precedes (.ofName right) = true) :
    names tree directory pattern = .ok ordered := by
  rw [names, list_ok]
  exact congrArg Except.ok
    ((discoveryOrder_of_perm same).trans (List.mergeSort_of_pairwise sorted))

/-! ## Directories with the same files -/

variable {left right : FileTree} {directory : Path} {pattern : FilePattern} {name : String}
  {location : Location}

/-- Whether two trees have the same files that fit a pattern in a directory, with the same
content. -/
structure SameFiles (left right : FileTree) (directory : Path) (pattern : FilePattern) : Prop where
  /-- The same files are found, or finding them fails for the same reason. -/
  names : names left directory pattern = names right directory pattern
  /-- What is found holds the same. -/
  contents : ∀ found, Artifact.names right directory pattern = .ok found → ∀ name ∈ found,
    left.readFile (directory.child name) = right.readFile (directory.child name)

theorem lookup_child_congr (left_reached : left.Reaches directory location)
    (right_reached : right.Reaches directory location) (named : Path.IsName name)
    (alike : left.entry? (location ++ [name]) = right.entry? (location ++ [name])) :
    left.lookup (directory.child name) = right.lookup (directory.child name) := by
  rw [FileTree.lookup_child left_reached named, FileTree.lookup_child right_reached named, alike]

theorem resolve_child_congr (left_reached : left.Reaches directory location)
    (right_reached : right.Reaches directory location) (named : Path.IsName name)
    (alike : left.entry? (location ++ [name]) = right.entry? (location ++ [name])) :
    left.resolve (directory.child name) = right.resolve (directory.child name) := by
  rw [FileTree.resolve, FileTree.resolve, FileTree.walk_child left_reached named,
    FileTree.walk_child right_reached named, FileTree.follow_name left_reached.inside,
    FileTree.follow_name right_reached.inside, Path.endsInSlash_child named, alike]
  rfl

theorem walked_of_resolve {tree : FileTree} (resolved : tree.resolve directory = .ok location) :
    tree.walk directory directory.segments = .ok location := by
  obtain ⟨_, _, resolved⟩ := Outcome.bind_ok.mp resolved
  obtain ⟨last, walked, resolved⟩ := Outcome.bind_ok.mp resolved
  split at resolved
  · cases resolved
  · cases resolved
    exact walked

/-- A directory that neither of two trees can list, for the same reason, has the same files. -/
theorem sameFiles_of_list_error (reason : FileError)
    (left_listed : left.list directory = .error reason)
    (right_listed : right.list directory = .error reason) :
    SameFiles left right directory pattern := by
  refine ⟨?_, fun found run name name_mem => ?_⟩
  · rw [Artifact.names, Artifact.names, left_listed, right_listed]
    cases reason <;> rfl
  · rw [Artifact.names, right_listed] at run
    cases reason <;> cases run
    cases name_mem

/-- Two trees have the same files in a directory that is in the same place in both, if there they
agree on all names that fit. -/
theorem sameFiles_of_reaches (right_formed : right.WellFormed)
    (left_reached : left.Reaches directory location)
    (right_reached : right.Reaches directory location)
    (alike : ∀ name, pattern.fits name = true →
      left.entry? (location ++ [name]) = right.entry? (location ++ [name])) :
    SameFiles left right directory pattern := by
  cases accepted : directory.check with
  | error reason =>
      refine sameFiles_of_list_error reason ?_ ?_ <;>
        rw [FileTree.list, FileTree.resolve, accepted] <;> rfl
  | ok _ =>
      have same_lookup : ∀ name, Path.IsName name → pattern.fits name = true →
          left.lookup (directory.child name) = right.lookup (directory.child name) :=
        fun name named fitting =>
          lookup_child_congr left_reached right_reached named (alike name fitting)
      have same_members : ∀ name, pattern.fits name = true →
          (name ∈ left.namesAt location ↔ name ∈ right.namesAt location) := by
        intro name fitting
        rw [FileTree.mem_namesAt_iff, FileTree.mem_namesAt_iff, alike name fitting]
      refine ⟨?_, fun found run name name_mem => ?_⟩
      · rw [names_of_reaches left_reached accepted, names_of_reaches right_reached accepted]
        refine congrArg Except.ok (discoveryOrder_of_perm ?_)
        refine (List.perm_ext_iff_of_nodup ((left.nodup_namesAt location).filter _)
          ((right.nodup_namesAt location).filter _)).mpr fun name => ?_
        simp only [List.mem_filter, Bool.and_eq_true]
        constructor
        · rintro ⟨listed, present, fitting⟩
          have listed_right := (same_members name fitting).mp listed
          refine ⟨listed_right, ?_, fitting⟩
          rwa [FileTree.isFile, ← same_lookup name (right_formed.isName listed_right) fitting]
        · rintro ⟨listed, present, fitting⟩
          refine ⟨(same_members name fitting).mpr listed, ?_, fitting⟩
          rwa [FileTree.isFile, same_lookup name (right_formed.isName listed) fitting]
      · obtain ⟨listed, _, fitting⟩ := (mem_names_iff right_reached accepted run).mp name_mem
        rw [FileTree.readFile, FileTree.readFile,
          same_lookup name (right_formed.isName listed) fitting]

/-- The same holds if it is only known that the path leads to the same place in both. -/
theorem sameFiles_of_resolve (right_formed : right.WellFormed)
    (resolved : left.resolve directory = right.resolve directory)
    (alike : ∀ location, right.resolve directory = .ok location →
      left.isDirectoryAt location = right.isDirectoryAt location ∧
        ∀ name, pattern.fits name = true →
          left.entry? (location ++ [name]) = right.entry? (location ++ [name])) :
    SameFiles left right directory pattern := by
  cases right_resolved : right.resolve directory with
  | error reason =>
      refine sameFiles_of_list_error reason ?_ ?_
      · rw [FileTree.list, resolved, right_resolved]
        rfl
      · rw [FileTree.list, right_resolved]
        rfl
  | ok location =>
      obtain ⟨same_directory, same_entries⟩ := alike location right_resolved
      have left_resolved := resolved.trans right_resolved
      cases inside : right.isDirectoryAt location with
      | false =>
          refine sameFiles_of_list_error .notDirectory ?_ ?_
          · rw [FileTree.list, left_resolved]
            exact if_neg (by simp [same_directory, inside])
          · rw [FileTree.list, right_resolved]
            exact if_neg (by simp [inside])
      | true =>
          exact sameFiles_of_reaches right_formed
            ⟨walked_of_resolve left_resolved, same_directory.trans inside⟩
            ⟨walked_of_resolve right_resolved, inside⟩ same_entries

/-! ## What is made of the files -/

theorem bytes_congr {path : Path} (same : left.readFile path = right.readFile path) :
    bytes left path = bytes right path := by
  rw [bytes, bytes, same]

theorem text_congr {path : Path} (same : left.readFile path = right.readFile path) :
    text left path = text right path := by
  rw [text, text, FileTree.readText, FileTree.readText, same]

theorem isFile_congr {path : Path} (same : left.readFile path = right.readFile path) :
    left.isFile path = right.isFile path := by
  rw [Bool.eq_iff_iff, FileTree.isFile_iff, FileTree.isFile_iff, same]

theorem SameFiles.scan_eq (same : SameFiles left right directory pattern) :
    scan left directory pattern = scan right directory pattern := by
  rw [scan, scan, same.names]

/-- Files that are scanned hold the same. -/
theorem SameFiles.readFile_eq (same : SameFiles left right directory pattern)
    {files : PositionMap Path} (scanned : scan right directory pattern = .ok files)
    {entry : Nat × Path} (listed : entry ∈ files.entries) :
    left.readFile entry.2 = right.readFile entry.2 := by
  obtain ⟨found, run, _⟩ := exists_grown_of_scan scanned
  obtain ⟨file, hit, path_eq⟩ :=
    (scan_get?_iff scanned).mp (PositionMap.get?_eq_some_iff.mpr listed)
  rw [← path_eq]
  exact same.contents found run file (hit.mem_names run)

end Artifact

end LaunchReplay
