import LaunchReplay.Geometry
import LaunchReplay.Proofs.Integer

/-!
# The grammar of launch geometry

A launch geometry is read from the first three lines of a text. Exactly the texts are read in which
these hold integers only, one to three of them and equally many on each line. So three equally long
lists of words can be written in any notation and with any white space, and are read back.
-/

namespace LaunchReplay

open Text

/-- Whether the tokens of a line are integers for some numbers, which are 64-bit words. -/
def Integer.Listed (line : List Char) (numbers : List Nat) : Prop :=
  List.Forall₂ (fun token number => Integer.IsInteger token number ∧ number < word64) (tokens line)
    numbers

/-- Whether a row is some numbers, which are 64-bit words: each in a notation of its own, with white
space around and between them but no line feed. -/
structure Integer.IsRow (row : List Char) (numbers : List Nat) : Prop where
  /-- There is no line feed in it. -/
  unbroken : '\n' ∉ row
  /-- The words in it denote the numbers. -/
  written : ∃ words, Spaced row words ∧
    List.Forall₂ (fun word number => Integer.Denotes word number ∧ number < word64) words numbers

theorem Integer.IsRow.listed {row : List Char} {numbers : List Nat} (written : IsRow row numbers) :
    Listed row numbers := by
  obtain ⟨_, words, spaced, denotes⟩ := written
  rw [Listed, tokens_eq_iff.mpr spaced]
  refine denotes.imp fun word number ⟨denotes, below⟩ => ⟨?_, below⟩
  exact ⟨[], word, [], by simp, blank_nil, blank_nil, denotes⟩

theorem Integer.IsRow.ne_nil {row : List Char} {numbers : List Nat} (written : IsRow row numbers)
    (nonempty : numbers ≠ []) : row ≠ [] := by
  rintro rfl
  exact nonempty (List.forall₂_nil_left_iff.mp written.listed)

namespace Geometry

/-- Whether three lists are equally long, with one to three components. -/
structure Dimensioned {α : Type} (first second third : List α) : Prop where
  /-- There is a component. -/
  nonempty : 1 ≤ first.length
  /-- There are at most three. -/
  few : first.length ≤ 3
  /-- The second list has as many as the first. -/
  second_length : second.length = first.length
  /-- So has the third. -/
  third_length : third.length = first.length

/-- Whether three lines are a launch geometry. -/
structure IsGeometry (first second third : List Char) : Prop where
  /-- Every token is an integer for a 64-bit word. -/
  integers : ∀ line ∈ [first, second, third], ∀ token ∈ tokens line,
    ∃ number, Integer.IsInteger token number ∧ number < word64
  /-- The lines are equally long, with one to three tokens each. -/
  dimensioned : Dimensioned (tokens first) (tokens second) (tokens third)

/-- Whether a geometry is the one that three lines hold. -/
structure IsHeld (first second third : List Char) (geometry : Geometry) : Prop where
  /-- The global size is on the first line. -/
  globalSize : Integer.Listed first geometry.globalSize
  /-- The local size is on the second line, unless only zeros are. -/
  localSize : ∃ sizes, Integer.Listed second sizes ∧
    geometry.explicitLocal? = if ∀ size ∈ sizes, size = 0 then none else some sizes
  /-- The global offset is on the third line. -/
  globalOffset : Integer.Listed third geometry.globalOffset
  /-- Each token is a dimension. -/
  dimensions : geometry.dimensions = (tokens first).length

variable {first second third : List Char} {geometry : Geometry} {text other : String}

/-! ## Lines -/

theorem parseLine_ok_iff {name : String} {line : List Char} {numbers : List Nat} :
    parseLine name line = .ok numbers ↔ Integer.Listed line numbers := by
  simp only [parseLine, Outcome.mapM_ok, Integer.parse_ok_iff, Integer.Listed]

theorem nextLine_ok_iff {name : String} {split rest : List (List Char)} {numbers : List Nat} :
    nextLine name split = .ok (numbers, rest) ↔
      ∃ line, split = line :: rest ∧ Integer.Listed line numbers := by
  cases split with
  | nil => simp [nextLine]
  | cons line others =>
      simp only [nextLine, Outcome.map_ok, parseLine_ok_iff, Prod.mk.injEq, List.cons.injEq]
      constructor
      · rintro ⟨_, listed, rfl, rfl⟩
        exact ⟨line, ⟨rfl, rfl⟩, listed⟩
      · rintro ⟨_, ⟨rfl, rfl⟩, listed⟩
        exact ⟨numbers, listed, rfl, rfl⟩

/-- Three lists make a geometry exactly if they are equally long, with one to three components. -/
theorem ofSizes_ok_iff {globalSize localSize globalOffset : List Nat} :
    ofSizes globalSize localSize globalOffset = .ok geometry ↔
      Dimensioned globalSize localSize globalOffset ∧
        geometry = ⟨globalSize, localSize, globalOffset⟩ := by
  simp only [ofSizes]
  split
  · rename_i outside
    refine ⟨nofun, fun ⟨dimensioned, _⟩ => ?_⟩
    have := dimensioned.nonempty
    have := dimensioned.few
    omega
  · rename_i inside
    split
    · rename_i differs
      exact ⟨nofun, fun ⟨dimensioned, _⟩ => absurd dimensioned.second_length differs⟩
    · rename_i second_length
      split
      · rename_i differs
        exact ⟨nofun, fun ⟨dimensioned, _⟩ => absurd dimensioned.third_length differs⟩
      · rename_i third_length
        constructor
        · intro made
          refine ⟨⟨?_, ?_, not_not.mp second_length, not_not.mp third_length⟩,
            (Except.ok.inj made).symm⟩ <;> omega
        · rintro ⟨_, rfl⟩
          rfl

/-- A geometry is read exactly if its components are on the first three lines, equally many on
each, one to three. -/
theorem parse_ok_iff :
    parse text = .ok geometry ↔ ∃ first second third further,
      lines text.toList = first :: second :: third :: further ∧
        Integer.Listed first geometry.globalSize ∧ Integer.Listed second geometry.localSize ∧
        Integer.Listed third geometry.globalOffset ∧
        Dimensioned geometry.globalSize geometry.localSize geometry.globalOffset := by
  simp only [parse, Outcome.bind_ok, Prod.exists, nextLine_ok_iff, ofSizes_ok_iff]
  constructor
  · rintro ⟨_, _, ⟨first, split_eq, global_listed⟩, _, _, ⟨second, rfl, local_listed⟩, _, further,
      ⟨third, rfl, offset_listed⟩, dimensioned, rfl⟩
    exact ⟨first, second, third, further, split_eq, global_listed, local_listed, offset_listed,
      dimensioned⟩
  · rintro ⟨first, second, third, further, split_eq, global_listed, local_listed, offset_listed,
      dimensioned⟩
    exact ⟨_, _, ⟨first, split_eq, global_listed⟩, _, _, ⟨second, rfl, local_listed⟩, _, further,
      ⟨third, rfl, offset_listed⟩, dimensioned, rfl⟩

theorem isHeld_of_listed (global_listed : Integer.Listed first geometry.globalSize)
    (local_listed : Integer.Listed second geometry.localSize)
    (offset_listed : Integer.Listed third geometry.globalOffset) :
    IsHeld first second third geometry := by
  refine ⟨global_listed, ⟨geometry.localSize, local_listed, ?_⟩, offset_listed,
    global_listed.length_eq.symm⟩
  simp [explicitLocal?]

/-- Lists that are as long as others are dimensioned as these are. -/
theorem Dimensioned.of_lengths {α β : Type} {first second third : List α}
    {first' second' third' : List β} (dimensioned : Dimensioned first second third)
    (first_eq : first'.length = first.length) (second_eq : second'.length = second.length)
    (third_eq : third'.length = third.length) : Dimensioned first' second' third' := by
  obtain ⟨nonempty, few, second_length, third_length⟩ := dimensioned
  constructor <;> omega

/-- Exactly the lines of a geometry hold components that make one. -/
theorem isGeometry_iff : IsGeometry first second third ↔
    ∃ geometry : Geometry, Integer.Listed first geometry.globalSize ∧
      Integer.Listed second geometry.localSize ∧ Integer.Listed third geometry.globalOffset ∧
      Dimensioned geometry.globalSize geometry.localSize geometry.globalOffset := by
  constructor
  · rintro ⟨integers, dimensioned⟩
    simp only [List.forall_mem_cons, List.not_mem_nil] at integers
    obtain ⟨globalSize, global_listed⟩ := Outcome.exists_forall₂ integers.1
    obtain ⟨localSize, local_listed⟩ := Outcome.exists_forall₂ integers.2.1
    obtain ⟨globalOffset, offset_listed⟩ := Outcome.exists_forall₂ integers.2.2.1
    exact ⟨⟨globalSize, localSize, globalOffset⟩, global_listed, local_listed, offset_listed,
      dimensioned.of_lengths global_listed.length_eq.symm local_listed.length_eq.symm
        offset_listed.length_eq.symm⟩
  · rintro ⟨geometry, global_listed, local_listed, offset_listed, dimensioned⟩
    refine ⟨?_, dimensioned.of_lengths global_listed.length_eq local_listed.length_eq
      offset_listed.length_eq⟩
    have integers : ∀ {line numbers}, Integer.Listed line numbers → ∀ token ∈ tokens line,
        ∃ number, Integer.IsInteger token number ∧ number < word64 := by
      intro line numbers listed token inside
      obtain ⟨number, _, integer⟩ := Outcome.exists_of_mem_of_forall₂ listed.flip inside
      exact ⟨number, integer⟩
    simp only [List.forall_mem_cons, List.not_mem_nil]
    exact ⟨integers global_listed, integers local_listed, integers offset_listed, by simp⟩

/-! ## Further lines -/

theorem parse_of_lines {further : List (List Char)}
    (split_eq : lines text.toList = first :: second :: third :: further) :
    parse text = (do
      let globalSize ← parseLine "global size" first
      let localSize ← parseLine "local size" second
      let globalOffset ← parseLine "global offset" third
      ofSizes globalSize localSize globalOffset) := by
  rw [parse, split_eq]
  simp only [nextLine, Outcome.map_bind]

/-- Lines after the third make no difference, neither for a geometry nor for an error. -/
theorem parse_congr (same : (lines other.toList).take 3 = (lines text.toList).take 3) :
    parse other = parse text := by
  by_cases enough : 3 ≤ (lines text.toList).length
  · obtain ⟨first, second, third, further, text_lines⟩ :
        ∃ first second third further, lines text.toList = first :: second :: third :: further := by
      match lines text.toList, enough with
      | first :: second :: third :: further, _ => exact ⟨first, second, third, further, rfl⟩
    obtain ⟨others, other_lines⟩ : ∃ others,
        lines other.toList = first :: second :: third :: others := by
      refine ⟨(lines other.toList).drop 3, ?_⟩
      rw [← List.take_append_drop 3 (lines other.toList), same, text_lines]
      simp
    rw [parse_of_lines text_lines, parse_of_lines other_lines]
  · -- Neither text has a third line, so both have the same lines.
    have lengths := congrArg List.length same
    rw [List.length_take, List.length_take] at lengths
    rw [List.take_of_length_le (by omega), List.take_of_length_le (by omega)] at same
    rw [parse, parse, same]

/-! ## Rows -/

/-- Rows that are written one under the other are read back. -/
theorem parse_rows {globalSize localSize globalOffset : List Nat} {rest : List Char}
    (dimensioned : Dimensioned globalSize localSize globalOffset)
    (global_row : Integer.IsRow first globalSize) (local_row : Integer.IsRow second localSize)
    (offset_row : Integer.IsRow third globalOffset)
    (ended : rest = [] ∨ ∃ further, rest = '\n' :: further) :
    parse (String.ofList (first ++ '\n' :: (second ++ '\n' :: (third ++ rest)))) =
      .ok ⟨globalSize, localSize, globalOffset⟩ := by
  obtain ⟨first_line, first_lines, first_tokens⟩ :=
    exists_line_of_row global_row.unbroken (second ++ '\n' :: (third ++ rest))
  obtain ⟨second_line, second_lines, second_tokens⟩ :=
    exists_line_of_row local_row.unbroken (third ++ rest)
  obtain ⟨third_line, others, third_lines, third_tokens⟩ : ∃ line others,
      lines (third ++ rest) = line :: others ∧ tokens line = tokens third := by
    rcases ended with rfl | ⟨further, rfl⟩
    · have nonempty : globalOffset ≠ [] := by
        rintro rfl
        have := dimensioned.nonempty
        have := dimensioned.third_length
        simp at this
        omega
      refine ⟨third, [], ?_, rfl⟩
      rw [List.append_nil]
      exact lines_unended (offset_row.ne_nil nonempty) offset_row.unbroken
    · obtain ⟨line, split_eq, same⟩ := exists_line_of_row offset_row.unbroken further
      exact ⟨line, _, split_eq, same⟩
  refine parse_ok_iff.mpr ⟨first_line, second_line, third_line, others, ?_, ?_, ?_, ?_, dimensioned⟩
  · rw [String.toList_ofList, first_lines, second_lines, third_lines]
  · rw [Integer.Listed, first_tokens]
    exact global_row.listed
  · rw [Integer.Listed, second_tokens]
    exact local_row.listed
  · rw [Integer.Listed, third_tokens]
    exact offset_row.listed

/-- A text is read as a launch geometry exactly if its first three lines are one, and what is read
is then what they hold. Further lines make no difference. Three equally long lists of one to three
words are read back however they are written in three rows, and each word can be written in decimal
and in hexadecimal. -/
theorem geometry_read_exactly (text : String) :
    ((∃ geometry, parse text = .ok geometry) ↔ ∃ first second third further,
      lines text.toList = first :: second :: third :: further ∧ IsGeometry first second third) ∧
    (∀ geometry, parse text = .ok geometry → ∃ first second third further,
      lines text.toList = first :: second :: third :: further ∧
        IsHeld first second third geometry) ∧
    (∀ other : String, (lines other.toList).take 3 = (lines text.toList).take 3 →
      parse other = parse text) ∧
    (∀ first second third rest : List Char, ∀ globalSize localSize globalOffset : List Nat,
      Dimensioned globalSize localSize globalOffset → Integer.IsRow first globalSize →
      Integer.IsRow second localSize → Integer.IsRow third globalOffset →
      (rest = [] ∨ ∃ further, rest = '\n' :: further) →
      parse (String.ofList (first ++ '\n' :: (second ++ '\n' :: (third ++ rest)))) =
        .ok ⟨globalSize, localSize, globalOffset⟩) ∧
    ∀ number, ∀ form ∈ Integer.forms number, Integer.Denotes form.toList number := by
  refine ⟨⟨?_, ?_⟩, fun geometry read => ?_, fun _ => parse_congr,
    fun _ _ _ _ _ _ _ => parse_rows, fun _ _ => Integer.denotes_of_mem_forms⟩
  · rintro ⟨geometry, read⟩
    obtain ⟨first, second, third, further, split_eq, held⟩ := parse_ok_iff.mp read
    exact ⟨first, second, third, further, split_eq, isGeometry_iff.mpr ⟨geometry, held⟩⟩
  · rintro ⟨first, second, third, further, split_eq, lines_geometry⟩
    obtain ⟨geometry, held⟩ := isGeometry_iff.mp lines_geometry
    exact ⟨geometry, parse_ok_iff.mpr ⟨first, second, third, further, split_eq, held⟩⟩
  · obtain ⟨first, second, third, further, split_eq, global_listed, local_listed, offset_listed,
      _⟩ := parse_ok_iff.mp read
    exact ⟨first, second, third, further, split_eq,
      isHeld_of_listed global_listed local_listed offset_listed⟩

theorem isRow_of_tokens {row : List Char} {numbers : List Nat} (words : List (List Char))
    (unbroken : '\n' ∉ row) (words_eq : tokens row = words)
    (read : List.Forall₂ (fun word number => Integer.ofTrimmed? word = some number) words numbers) :
    Integer.IsRow row numbers :=
  ⟨unbroken, words, tokens_eq_iff.mp words_eq,
    read.imp fun _ _ => Integer.ofTrimmed?_eq_some_iff.mp⟩

theorem looseRows_read :
    parse "\t16  0x0F \r\n 0\u00a0+0\n1 0X2a\nno size" = .ok ⟨[16, 15], [0, 0], [1, 42]⟩ ∧
      explicitLocal? ⟨[16, 15], [0, 0], [1, 42]⟩ = none ∧
      parse "\t16  0x0F \r\n 0\u00a0+0\n1 0X2a" = .ok ⟨[16, 15], [0, 0], [1, 42]⟩ := by
  have global_row : Integer.IsRow "\t16  0x0F \r".toList [16, 15] :=
    isRow_of_tokens ["16".toList, "0x0F".toList] (by decide) (by decide)
      (.cons (by decide) (.cons (by decide) .nil))
  have local_row : Integer.IsRow " 0\u00a0+0".toList [0, 0] :=
    isRow_of_tokens ["0".toList, "+0".toList] (by decide) (by decide)
      (.cons (by decide) (.cons (by decide) .nil))
  have offset_row : Integer.IsRow "1 0X2a".toList [1, 42] :=
    isRow_of_tokens ["1".toList, "0X2a".toList] (by decide) (by decide)
      (.cons (by decide) (.cons (by decide) .nil))
  have dimensioned : Dimensioned [16, 15] [0, 0] [1, 42] := by constructor <;> decide
  have read := (geometry_read_exactly "").2.2.2.1 _ _ _ "\nno size".toList _ _ _ dimensioned
    global_row local_row offset_row (.inr ⟨_, rfl⟩)
  refine ⟨read, by decide, ?_⟩
  have same := (geometry_read_exactly "\t16  0x0F \r\n 0\u00a0+0\n1 0X2a\nno size").2.2.1
    "\t16  0x0F \r\n 0\u00a0+0\n1 0X2a" (by decide)
  exact same.trans read

end Geometry

end LaunchReplay
