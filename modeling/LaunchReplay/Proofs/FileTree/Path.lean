import LaunchReplay.FileTree.Path

/-!
# Paths of names in directories

The path of a name in a directory has the segments of the directory and then the name, whether or
not the path of the directory ends in a slash.
-/

namespace LaunchReplay.Path

/-- What can be the name of a file or a directory. -/
structure IsName (name : String) : Prop where
  /-- It is not empty. -/
  nonempty : name.toList ≠ []
  /-- It has no slash. -/
  plain : '/' ∉ name.toList
  /-- It does not stand for the directory that it is in. -/
  not_here : name.toList ≠ ['.']
  /-- It does not stand for the directory above. -/
  not_up : name.toList ≠ ['.', '.']

instance (name : String) : Decidable (IsName name) :=
  decidable_of_iff
    (name.toList ≠ [] ∧ '/' ∉ name.toList ∧ name.toList ≠ ['.'] ∧ name.toList ≠ ['.', '.'])
    ⟨fun ⟨nonempty, plain, not_here, not_up⟩ => ⟨nonempty, plain, not_here, not_up⟩,
      fun named => ⟨named.nonempty, named.plain, named.not_here, named.not_up⟩⟩

/-! ## Splitting -/

theorem splitSlashes_ne_nil (text : List Char) : splitSlashes text ≠ [] := by
  induction text with
  | nil => simp [splitSlashes]
  | cons letter rest induction =>
      unfold splitSlashes
      split
      · simp
      · split <;> simp

/-- A slash separates the parts before it from those after it. -/
theorem splitSlashes_append (left right : List Char) :
    splitSlashes (left ++ '/' :: right) = splitSlashes left ++ splitSlashes right := by
  induction left with
  | nil => simp [splitSlashes]
  | cons letter rest induction =>
      rw [List.cons_append]
      by_cases slash : letter = '/'
      · simp [splitSlashes, slash, induction]
      · obtain ⟨part, parts, split⟩ := List.exists_cons_of_ne_nil (splitSlashes_ne_nil rest)
        simp [splitSlashes, slash, induction, split]

theorem splitSlashes_of_plain {text : List Char} (plain : '/' ∉ text) :
    splitSlashes text = [text] := by
  induction text with
  | nil => rfl
  | cons letter rest induction =>
      rw [List.mem_cons, not_or] at plain
      have other : letter ≠ '/' := Ne.symm plain.1
      simp [splitSlashes, other, induction plain.2]

theorem segment?_of_isName {name : String} (named : IsName name) :
    segment? name.toList = some (.name name) := by
  rw [segment?]
  · rw [String.ofList_toList]
  · exact named.nonempty
  · exact named.not_here
  · exact named.not_up

/-! ## Relative paths -/

section

variable {base relative : Path}

/-- A relative path that is followed from another adds its segments. -/
theorem segments_join (other : relative.isAbsolute = false) :
    (base.join relative).segments = base.segments ++ relative.segments := by
  rw [join, other, Bool.false_or]
  split
  · rename_i empty
    have nothing : base.text = "" := by simpa using empty
    simp [segments, nothing, splitSlashes, segment?]
  · split
    · rename_i slash
      obtain ⟨front, text_eq⟩ : ∃ front, base.text.toList = front ++ ['/'] := by
        rw [endsInSlash, beq_iff_eq] at slash
        exact List.getLast?_eq_some_iff.mp slash
      rw [segments, segments, segments, String.toList_append, text_eq, List.append_assoc,
        List.singleton_append, splitSlashes_append, splitSlashes_append, List.filterMap_append,
        List.filterMap_append]
      simp [splitSlashes, segment?]
    · have slashed : (base.text ++ "/" ++ relative.text).toList =
          base.text.toList ++ '/' :: relative.text.toList := by simp
      rw [segments, slashed, splitSlashes_append, List.filterMap_append]
      rfl

theorem isAbsolute_join (other : relative.isAbsolute = false) :
    (base.join relative).isAbsolute = base.isAbsolute := by
  rw [join, other, Bool.false_or]
  split
  · rename_i empty
    have nothing : base.text = "" := by simpa using empty
    rw [other, isAbsolute, nothing]
    rfl
  · rename_i nonempty
    have something : base.text.toList ≠ [] := by simpa using nonempty
    obtain ⟨letter, rest, shape⟩ := List.exists_cons_of_ne_nil something
    split <;> simp [isAbsolute, shape]

end

/-! ## Names in directories -/

variable {directory : Path} {name : String}

/-- What stands before the names in a directory. -/
def stem (directory : Path) : String :=
  if directory.text.isEmpty then "" else
    if directory.endsInSlash then directory.text else directory.text ++ "/"

theorem not_isAbsolute_of_isName (named : IsName name) : (Path.mk name).isAbsolute = false := by
  obtain ⟨letter, rest, shape⟩ := List.exists_cons_of_ne_nil named.nonempty
  have other : letter ≠ '/' := fun slash => named.plain (by simp [shape, slash])
  simp [isAbsolute, shape, other]

theorem child_eq (named : IsName name) : directory.child name = ⟨directory.stem ++ name⟩ := by
  rw [child, join, not_isAbsolute_of_isName named, stem]
  cases directory.text.isEmpty with
  | true => simp
  | false =>
      cases directory.endsInSlash with
      | true => simp
      | false => simp

theorem segments_of_isName (named : IsName name) : (Path.mk name).segments = [.name name] := by
  rw [segments, splitSlashes_of_plain named.plain, List.filterMap_cons, segment?_of_isName named]
  rfl

/-- The segments of the path of a name are those of the directory, and then the name. -/
theorem segments_child (named : IsName name) :
    (directory.child name).segments = directory.segments ++ [.name name] := by
  rw [child, segments_join (not_isAbsolute_of_isName named), segments_of_isName named]

theorem isAbsolute_child (named : IsName name) :
    (directory.child name).isAbsolute = directory.isAbsolute :=
  isAbsolute_join (not_isAbsolute_of_isName named)

theorem endsInSlash_child (named : IsName name) : (directory.child name).endsInSlash = false := by
  obtain ⟨front, last, shape⟩ := (List.eq_nil_or_concat name.toList).resolve_left named.nonempty
  have other : last ≠ '/' := fun slash => named.plain (by simp [shape, slash])
  simp [child_eq named, endsInSlash, shape, other]

theorem check_ok_iff {path : Path} :
    path.check = .ok () ↔
      '\x00' ∉ path.text.toList ∧ path.text ≠ "" ∧ path.text.utf8ByteSize < pathLimit := by
  rw [check]
  split
  · rename_i null
    simp [List.contains_iff_mem.mp null]
  · rename_i printable
    have absent : '\x00' ∉ path.text.toList := fun null =>
      printable (List.contains_iff_mem.mpr null)
    split
    · rename_i empty
      have nothing : path.text = "" := by simpa using empty
      simp [nothing]
    · rename_i nonempty
      have something : path.text ≠ "" := by simpa using nonempty
      split
      · rename_i long
        simp [Nat.not_lt.mpr long]
      · rename_i short
        simp [absent, something, Nat.lt_of_not_le short]

/-- A name that is not longer than one whose path is accepted has an accepted path too. -/
theorem check_child_of_le {long : String} (named : IsName name) (long_named : IsName long)
    (shorter : name.utf8ByteSize ≤ long.utf8ByteSize) (printable : '\x00' ∉ name.toList)
    (accepted : (directory.child long).check = .ok ()) :
    (directory.child name).check = .ok () := by
  rw [child_eq long_named, check_ok_iff] at accepted
  obtain ⟨no_null, _, short⟩ := accepted
  rw [String.toList_append, List.mem_append, not_or] at no_null
  rw [String.utf8ByteSize_append] at short
  rw [child_eq named, check_ok_iff, String.toList_append, List.mem_append, not_or,
    String.utf8ByteSize_append]
  have name_nonempty : name ≠ "" := fun empty => named.nonempty (by rw [empty]; rfl)
  exact ⟨⟨no_null.1, printable⟩, by simp [name_nonempty], by omega⟩

/-- A directory has an accepted path if a name in it has. -/
theorem check_of_check_child (named : IsName name) (nonempty : directory.text ≠ "")
    (accepted : (directory.child name).check = .ok ()) : directory.check = .ok () := by
  obtain ⟨more, stem_eq⟩ : ∃ more, directory.stem = directory.text ++ more := by
    rw [stem, if_neg (by simpa using nonempty)]
    split
    · exact ⟨"", by simp⟩
    · exact ⟨"/", rfl⟩
  rw [child_eq named, check_ok_iff, stem_eq] at accepted
  obtain ⟨no_null, _, short⟩ := accepted
  simp only [String.toList_append, List.mem_append, not_or] at no_null
  simp only [String.utf8ByteSize_append] at short
  exact check_ok_iff.mpr ⟨no_null.1.1, nonempty, by omega⟩

end LaunchReplay.Path
