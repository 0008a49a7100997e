import LaunchReplay.Proofs.Naming.FileStart

/-!
# Patterns as globs

A pattern is shown as a glob, in which a star stands for any text. The names that fit the pattern
are those for which its glob stands, as long as no part of the pattern holds a star of its own. A
search that counts the bytes of a name finds the same names: if a name starts and ends as the
pattern asks, then the offsets at which its middle begins and stops are between characters.
-/

namespace LaunchReplay

namespace Glob

/-- Whether a glob stands for a text. -/
inductive StandsFor : List Char → List Char → Prop
  /-- The empty glob stands for the empty text. -/
  | empty : StandsFor [] []
  /-- A letter other than a star stands for itself. -/
  | letter {letter : Char} {glob text : List Char} (plain : letter ≠ '*')
    (rest : StandsFor glob text) : StandsFor (letter :: glob) (letter :: text)
  /-- A star stands for any text. -/
  | star (any : List Char) {glob text : List Char} (rest : StandsFor glob text) :
    StandsFor ('*' :: glob) (any ++ text)

variable {front glob text : List Char}

theorem standsFor_nil_iff : StandsFor [] text ↔ text = [] := by
  constructor
  · intro stands
    cases stands
    rfl
  · rintro rfl
    exact .empty

theorem standsFor_star_iff :
    StandsFor ('*' :: glob) text ↔ ∃ any rest, text = any ++ rest ∧ StandsFor glob rest := by
  constructor
  · intro stands
    cases stands with
    | letter plain => exact absurd rfl plain
    | star any rest => exact ⟨any, _, rfl, rest⟩
  · rintro ⟨any, rest, rfl, stands⟩
    exact .star any stands

/-- Letters other than stars stand for themselves, whatever comes after them. -/
theorem standsFor_append_iff (plain : '*' ∉ front) :
    StandsFor (front ++ glob) text ↔ ∃ rest, text = front ++ rest ∧ StandsFor glob rest := by
  induction front generalizing text with
  | nil => simp
  | cons letter front induction =>
      obtain ⟨other, plain⟩ := not_or.mp (List.mem_cons.not.mp plain)
      constructor
      · intro stands
        cases stands with
        | letter _ others =>
            obtain ⟨rest, rfl, stands⟩ := (induction plain).mp others
            exact ⟨rest, rfl, stands⟩
        | star => exact absurd rfl other
      · rintro ⟨rest, rfl, stands⟩
        exact .letter (Ne.symm other) ((induction plain).mpr ⟨rest, rfl, stands⟩)

/-- Letters other than stars and a star after them stand for the texts that start with them. -/
theorem standsFor_append_star_iff (plain : '*' ∉ front) :
    StandsFor (front ++ '*' :: glob) text ↔
      ∃ any rest, text = front ++ any ++ rest ∧ StandsFor glob rest := by
  rw [standsFor_append_iff plain]
  constructor
  · rintro ⟨_, rfl, starred⟩
    obtain ⟨any, rest, rfl, stands⟩ := standsFor_star_iff.mp starred
    exact ⟨any, rest, (List.append_assoc ..).symm, stands⟩
  · rintro ⟨any, rest, rfl, stands⟩
    exact ⟨any ++ rest, List.append_assoc .., .star any stands⟩

theorem standsFor_plain_iff (plain : '*' ∉ front) : StandsFor front text ↔ text = front := by
  have whole : StandsFor (front ++ []) text ↔ ∃ rest, text = front ++ rest ∧ StandsFor [] rest :=
    standsFor_append_iff plain
  simpa [standsFor_nil_iff] using whole

/-- A part of a glob that is followed by a star stands for the names that start with it. -/
theorem standsFor_starred_iff {part others name : String} (plain : '*' ∉ part.toList) :
    StandsFor (part ++ "*" ++ others).toList name.toList ↔
      ∃ any rest, name = part ++ any ++ rest ∧ StandsFor others.toList rest.toList := by
  have letters : (part ++ "*" ++ others).toList = part.toList ++ '*' :: others.toList := by
    simp
  rw [letters, standsFor_append_star_iff plain]
  constructor
  · rintro ⟨any, rest, split, stands⟩
    refine ⟨String.ofList any, String.ofList rest, String.toList_inj.mp (by simpa using split), ?_⟩
    rwa [String.toList_ofList]
  · rintro ⟨any, rest, rfl, stands⟩
    exact ⟨any.toList, rest.toList, by simp, stands⟩

/-- The last part of a glob stands for itself. -/
theorem standsFor_last_iff {part name : String} (plain : '*' ∉ part.toList) :
    StandsFor part.toList name.toList ↔ name = part := by
  rw [standsFor_plain_iff plain, String.toList_inj]

end Glob

/-! ## Byte offsets -/

namespace Text

theorem endsWith_iff {text ending : String} :
    text.endsWith ending = true ↔ ending.toList <:+ text.toList := by
  rw [String.endsWith_eq_endsWith_toSlice, String.Slice.endsWith_string_iff, String.copy_toSlice]

theorem contains_eq_occurs (text needle : String) :
    text.contains needle = occurs needle.toList text.toList := by
  rw [Bool.eq_iff_iff, String.contains_string_iff, occurs_iff, List.IsInfix]
  simp only [eq_comm]

/-- The part of a text from one byte offset up to another. There is none if an offset is inside a
character or behind the text, or if the offsets are not in order. -/
def sliceAt? (text : String) (first last : Nat) : Option String.Slice := do
  let start ← text.pos? ⟨first⟩
  let stop ← text.pos? ⟨last⟩
  text.slice? start stop

/-- The end of the first of two texts is an offset between characters of both together. -/
theorem exists_pos?_eq_some {text : String} (front back : String) (split : text = front ++ back) :
    ∃ place, text.pos? ⟨front.utf8ByteSize⟩ = some place ∧ place.Splits front back := by
  subst split
  have valid : (⟨front.utf8ByteSize⟩ : String.Pos.Raw).IsValid (front ++ back) :=
    String.Pos.Raw.isValid_iff_exists_append.mpr ⟨front, back, rfl, rfl⟩
  refine ⟨(front ++ back).pos _ valid, ?_, ⟨rfl, rfl⟩⟩
  have sliced : (⟨front.utf8ByteSize⟩ : String.Pos.Raw).isValidForSlice (front ++ back).toSlice =
      true := String.Pos.Raw.isValidForSlice_eq_true_iff.mpr valid.toSlice
  rw [String.pos?, String.Slice.pos?, dif_pos sliced]
  rfl

theorem exists_sliceAt?_eq_some (front middle back : String) :
    ∃ slice, sliceAt? (front ++ middle ++ back) front.utf8ByteSize
        (front.utf8ByteSize + middle.utf8ByteSize) = some slice ∧ slice.copy = middle := by
  have regrouped : front ++ middle ++ back = front ++ (middle ++ back) := String.append_assoc
  obtain ⟨start, start_at, starts⟩ := exists_pos?_eq_some front (middle ++ back) regrouped
  obtain ⟨stop, stop_at, stops⟩ := exists_pos?_eq_some (front ++ middle) back rfl
  obtain ⟨ordered, copied⟩ := String.copy_slice_eq_iff_splits.mpr ⟨front, back, starts, stops⟩
  rw [String.utf8ByteSize_append] at stop_at
  refine ⟨_, ?_, copied⟩
  rw [sliceAt?, start_at, stop_at]
  exact dif_pos ordered

end Text

namespace FilePattern

/-- Whether the parts of a pattern hold no stars, so that the stars of its glob are between them. -/
structure Starless (pattern : FilePattern) : Prop where
  /-- What a name starts with holds none. -/
  start : '*' ∉ pattern.start.toList
  /-- What a name ends with holds none. -/
  ending : '*' ∉ pattern.ending.toList
  /-- What a name holds in between holds none. -/
  marker : ∀ marker ∈ pattern.marker, '*' ∉ marker.toList

/-- Whether a name is made of the parts of a pattern one after the other, with any texts between
them. -/
def Composes (pattern : FilePattern) (name : String) : Prop :=
  match pattern.marker with
  | none => ∃ between, name = pattern.start ++ between ++ pattern.ending
  | some marker =>
    ∃ before after, name = pattern.start ++ before ++ marker ++ after ++ pattern.ending

/-- Whether a file name fits a pattern, found by the sizes of names and patterns in bytes; there is
no answer if the name would be cut inside a character. -/
def fitsByBytes? (pattern : FilePattern) (name : String) : Option Bool :=
  if name.utf8ByteSize < pattern.start.utf8ByteSize + pattern.ending.utf8ByteSize then some false
  else if !name.startsWith pattern.start || !name.endsWith pattern.ending then some false
  else
    match pattern.marker with
    | none => some true
    | some marker =>
      (Text.sliceAt? name pattern.start.utf8ByteSize
        (name.utf8ByteSize - pattern.ending.utf8ByteSize)).map (·.contains marker)

variable {pattern : FilePattern} {name : String}

/-- With a marker, the names that fit are those with the marker anywhere between the start and the
ending. -/
theorem fits_iff_of_marked {marker : String} (marked : pattern.marker = some marker) :
    pattern.fits name = true ↔
      ∃ before after, name = pattern.start ++ before ++ marker ++ after ++ pattern.ending := by
  constructor
  · intro fitting
    obtain ⟨middle, shape⟩ := exists_middle_of_fits fitting
    rw [fits, marked, middle?_append shape] at fitting
    obtain ⟨before, after, rfl⟩ := Text.occurs_iff.mp fitting
    exact ⟨String.ofList before, String.ofList after, String.toList_inj.mp (by simpa using shape)⟩
  · rintro ⟨before, after, rfl⟩
    have middle_eq :
        pattern.middle? (pattern.start ++ before ++ marker ++ after ++ pattern.ending).toList =
          some (before.toList ++ marker.toList ++ after.toList) := middle?_append (by simp)
    rw [fits, marked, middle_eq]
    exact Text.occurs_iff.mpr ⟨before.toList, after.toList, rfl⟩

theorem fits_iff_composes : pattern.fits name = true ↔ pattern.Composes name := by
  cases marked : pattern.marker with
  | none =>
      rw [Composes, marked]
      exact fits_iff_of_unmarked marked
  | some marker =>
      rw [Composes, marked]
      exact fits_iff_of_marked marked

/-- The glob of a pattern stands for the names that are made of the parts of the pattern. -/
theorem standsFor_glob_iff (starless : pattern.Starless) :
    Glob.StandsFor pattern.glob.toList name.toList ↔ pattern.Composes name := by
  obtain ⟨start, ending, marker⟩ := pattern
  obtain ⟨start_plain, ending_plain, marker_plain⟩ := starless
  cases marker with
  | none =>
      rw [glob, Glob.standsFor_starred_iff start_plain]
      simp only [Glob.standsFor_last_iff ending_plain, exists_eq_right]
      rfl
  | some marker =>
      have regrouped : start ++ "*" ++ marker ++ "*" ++ ending =
          start ++ "*" ++ (marker ++ "*" ++ ending) := by
        simp [String.append_assoc]
      dsimp only [glob]
      rw [regrouped, Glob.standsFor_starred_iff start_plain]
      simp only [Glob.standsFor_starred_iff (marker_plain marker rfl),
        Glob.standsFor_last_iff ending_plain, exists_eq_right]
      constructor
      · rintro ⟨before, _, rfl, after, rfl⟩
        exact ⟨before, after, by simp [String.append_assoc]⟩
      · rintro ⟨before, after, rfl⟩
        exact ⟨before, _, by simp [String.append_assoc], after, rfl⟩

/-- A name that goes from the start to the ending is cut between characters, and the marker is
searched in what is between them. -/
theorem fitsByBytes?_of_middle {middle : String}
    (shape : name = pattern.start ++ middle ++ pattern.ending) :
    pattern.fitsByBytes? name =
      match pattern.marker with
      | none => some true
      | some marker => some (middle.contains marker) := by
  have size : name.utf8ByteSize =
      pattern.start.utf8ByteSize + middle.utf8ByteSize + pattern.ending.utf8ByteSize := by
    rw [shape, String.utf8ByteSize_append, String.utf8ByteSize_append]
  have starting : name.startsWith pattern.start = true := by
    rw [String.startsWith_string_iff, shape]
    simp
  have finishing : name.endsWith pattern.ending = true := by
    rw [Text.endsWith_iff, shape, String.toList_append]
    exact List.suffix_append _ _
  rw [fitsByBytes?, if_neg (by omega), if_neg (by simp [starting, finishing])]
  cases pattern.marker with
  | none => rfl
  | some marker =>
      obtain ⟨slice, sliced, copied⟩ :=
        Text.exists_sliceAt?_eq_some pattern.start middle pattern.ending
      have stop : name.utf8ByteSize - pattern.ending.utf8ByteSize =
          pattern.start.utf8ByteSize + middle.utf8ByteSize := by omega
      dsimp only
      rw [stop, shape, sliced, Option.map_some, Option.some_inj, Bool.eq_iff_iff,
        String.Slice.contains_string_iff, String.contains_string_iff, copied]

/-- A name that starts and ends as asked goes from the start to the ending if it has the bytes of
both. -/
theorem exists_middle_of_bytes
    (size : pattern.start.utf8ByteSize + pattern.ending.utf8ByteSize ≤ name.utf8ByteSize)
    (starting : name.startsWith pattern.start = true)
    (finishing : name.endsWith pattern.ending = true) :
    ∃ middle, name = pattern.start ++ middle ++ pattern.ending := by
  obtain ⟨behind, behind_split⟩ := String.startsWith_string_iff.mp starting
  obtain ⟨front, front_split⟩ := Text.endsWith_iff.mp finishing
  rcases List.append_eq_append_iff.mp (behind_split.trans front_split.symm) with
    ⟨between, front_eq, _⟩ | ⟨overlap, _, ending_eq⟩
  · exact ⟨String.ofList between, String.toList_inj.mp (by simp [← front_split, front_eq])⟩
  · -- An overlap would need bytes that the name does not have.
    have name_eq : name = pattern.start ++ String.ofList behind :=
      String.toList_inj.mp (by simp [behind_split])
    have ending_parts : pattern.ending = String.ofList overlap ++ String.ofList behind :=
      String.toList_inj.mp (by simp [ending_eq])
    rw [name_eq, ending_parts, String.utf8ByteSize_append, String.utf8ByteSize_append] at size
    have none_left : String.ofList overlap = "" := String.utf8ByteSize_eq_zero_iff.mp (by omega)
    refine ⟨"", ?_⟩
    rw [name_eq, ending_parts, none_left, String.append_empty, String.empty_append]

theorem fitsByBytes?_of_shapeless
    (shapeless : ¬ ∃ middle, name = pattern.start ++ middle ++ pattern.ending) :
    pattern.fitsByBytes? name = some false := by
  rw [fitsByBytes?]
  split
  · rfl
  · rename_i size
    split
    · rfl
    · rename_i affixes
      simp only [Bool.or_eq_true, Bool.not_eq_true', not_or, Bool.not_eq_false] at affixes
      obtain ⟨starting, finishing⟩ := affixes
      exact absurd (exists_middle_of_bytes (Nat.not_lt.mp size) starting finishing) shapeless

/-- Counting bytes never cuts a name inside a character, and finds the names that fit. -/
theorem fitsByBytes?_eq (pattern : FilePattern) (name : String) :
    pattern.fitsByBytes? name = some (pattern.fits name) := by
  by_cases shaped : ∃ middle, name = pattern.start ++ middle ++ pattern.ending
  · obtain ⟨middle, shape⟩ := shaped
    have middle_eq : pattern.middle? name.toList = some middle.toList :=
      middle?_append (by simp [shape])
    rw [fitsByBytes?_of_middle shape, fits, middle_eq]
    cases pattern.marker with
    | none => rfl
    | some marker => exact congrArg some (Text.contains_eq_occurs middle marker)
  · have unfit : pattern.fits name = false :=
      Bool.eq_false_iff.mpr fun fitting => shaped (exists_text_of_fits fitting)
    rw [unfit, fitsByBytes?_of_shapeless shaped]

/-- The patterns for the files of an enqueue hold no stars of their own. -/
theorem starless_of_mem_patterns {enqueue : Enqueue} (listed : pattern ∈ enqueue.patterns) :
    pattern.Starless := by
  have padded_plain : '*' ∉ enqueue.padded.toList := fun inside =>
    absurd (Text.isDigit_of_mem_decimalPadded inside) (by decide)
  have start_plain : '*' ∉ enqueue.fileStart.toList := by
    simp [Enqueue.fileStart, padded_plain]
  have kernel_plain : '*' ∉ (enqueue.fileStart ++ "Kernel_").toList := by
    simp [start_plain]
  have post_plain (kind : OutputKind) : '*' ∉ kind.extension.toList := by
    cases kind <;> simp [OutputKind.extension]
  have test_plain (kind : OutputKind) : '*' ∉ ("_" ++ kind.label ++ kind.extension).toList := by
    cases kind <;> simp [OutputKind.label, OutputKind.extension]
  have marker_plain : ∀ marker ∈ some "_Arg_", '*' ∉ marker.toList := by
    simp
  simp only [Enqueue.patterns, List.mem_cons, List.not_mem_nil, or_false] at listed
  rcases listed with rfl | rfl | rfl | rfl | rfl | rfl
  · exact ⟨start_plain, post_plain .buffer, marker_plain⟩
  · exact ⟨start_plain, post_plain .image, marker_plain⟩
  · exact ⟨kernel_plain, post_plain .buffer, marker_plain⟩
  · exact ⟨kernel_plain, post_plain .image, marker_plain⟩
  · exact ⟨kernel_plain, test_plain .buffer, marker_plain⟩
  · exact ⟨kernel_plain, test_plain .image, marker_plain⟩

/-- The names that fit a pattern without stars of its own are those for which its glob stands, made
of its parts with any texts between them; and they are found by bytes without cutting a
character. -/
theorem fits_iff_glob (pattern : FilePattern) (starless : pattern.Starless) (name : String) :
    pattern.fitsByBytes? name = some (pattern.fits name) ∧
      (pattern.fits name = true ↔ Glob.StandsFor pattern.glob.toList name.toList) ∧
      (pattern.fits name = true ↔ pattern.Composes name) :=
  ⟨fitsByBytes?_eq pattern name, fits_iff_composes.trans (standsFor_glob_iff starless).symm,
    fits_iff_composes⟩

theorem fits_iff_glob_accented :
    (test ⟨1⟩ .buffer).Starless ∧
      (test ⟨1⟩ .buffer).fitsByBytes? "Enqueue_0001_Kernel_é_Arg_Buffer.bin" =
        some ((test ⟨1⟩ .buffer).fits "Enqueue_0001_Kernel_é_Arg_Buffer.bin") ∧
      ((test ⟨1⟩ .buffer).fits "Enqueue_0001_Kernel_é_Arg_Buffer.bin" = true ↔
        Glob.StandsFor (test ⟨1⟩ .buffer).glob.toList
          "Enqueue_0001_Kernel_é_Arg_Buffer.bin".toList) ∧
      ((test ⟨1⟩ .buffer).fits "Enqueue_0001_Kernel_é_Arg_Buffer.bin" = true ↔
        (test ⟨1⟩ .buffer).Composes "Enqueue_0001_Kernel_é_Arg_Buffer.bin") :=
  have listed : test ⟨1⟩ .buffer ∈ Enqueue.patterns ⟨1⟩ := by simp [Enqueue.patterns]
  ⟨starless_of_mem_patterns listed,
    fits_iff_glob (test ⟨1⟩ .buffer) (starless_of_mem_patterns listed)
      "Enqueue_0001_Kernel_é_Arg_Buffer.bin"⟩

end FilePattern

end LaunchReplay
