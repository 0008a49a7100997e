import LaunchReplay.Proofs.Image
import LaunchReplay.Proofs.Integer

/-!
# The grammar of image metadata

Image metadata is read from nine lines or more: the type is on the last of the nine, and it says how
many of the first lines hold the extent. Exactly the texts are read in which these lines and the two
of the pixel format are integers in their ranges, and what the other lines hold does not matter.
-/

namespace LaunchReplay

open Text

/-- Whether the line at an index is an integer for a number below a bound. -/
def Integer.OnLine (split : List (List Char)) (index bound number : Nat) : Prop :=
  ∃ line, split[index]? = some line ∧ Integer.IsInteger line number ∧ number < bound

/-- Whether lines are integers for some extents, which are 64-bit words. -/
def ImageShape.OnLines (split : List (List Char)) (shape : ImageShape) : Prop :=
  List.Forall₂ (fun line extent => Integer.IsInteger line extent ∧ extent < word64) split
    shape.extents

theorem ImageType.extentCount_cases (type : ImageType) :
    type.extentCount = 1 ∨ type.extentCount = 2 ∨ type.extentCount = 3 := by
  cases type <;> simp [extentCount]

/-- One to three numbers are an extent. -/
theorem ImageShape.exists_extents_eq (type : ImageType) {extents : List Nat}
    (count : extents.length = type.extentCount) : ∃ shape, ImageShape.extents shape = extents := by
  rcases type.extentCount_cases with single | double | triple
  · obtain ⟨width, rfl⟩ := List.length_eq_one_iff.mp (count.trans single)
    exact ⟨.line width, rfl⟩
  · obtain ⟨width, height, rfl⟩ := List.length_eq_two.mp (count.trans double)
    exact ⟨.plane width height, rfl⟩
  · obtain ⟨width, height, depth, rfl⟩ := List.length_eq_three.mp (count.trans triple)
    exact ⟨.volume width height depth, rfl⟩

namespace ImageDescriptor

/-- Whether lines are image metadata. -/
structure IsMetadata (split : List (List Char)) : Prop where
  /-- There are nine lines, or more. -/
  enough : metadataLines ≤ split.length
  /-- The ninth line is the code of a type, and as many of the first lines as that type has extents
  are integers. -/
  typed : ∃ code, Integer.OnLine split 8 word32 code ∧
    ∀ line ∈ split.take (ImageType.ofCode code).extentCount,
      ∃ extent, Integer.IsInteger line extent ∧ extent < word64
  /-- The seventh line is the code of a channel order. -/
  order : ∃ code, Integer.OnLine split 6 word32 code
  /-- The eighth line is the code of a channel data type. -/
  dataType : ∃ code, Integer.OnLine split 7 word32 code

/-- Whether a descriptor is the one that lines of metadata hold. -/
structure IsHeld (split : List (List Char)) (descriptor : ImageDescriptor) : Prop where
  /-- The type is that of the code on the ninth line. -/
  type : ∃ code, Integer.OnLine split 8 word32 code ∧ descriptor.type = ImageType.ofCode code
  /-- There are as many extents as the type calls for. -/
  count : descriptor.shape.extents.length = descriptor.type.extentCount
  /-- The first lines hold them, in order. -/
  extents : descriptor.shape.OnLines (split.take descriptor.type.extentCount)
  /-- The channel order is on the seventh line. -/
  order : Integer.OnLine split 6 word32 descriptor.format.channelOrder
  /-- The channel data type is on the eighth line. -/
  dataType : Integer.OnLine split 7 word32 descriptor.format.channelDataType

/-- Whether two texts of nine lines or more agree on the lines that are read. -/
structure Agree (left right : List (List Char)) : Prop where
  /-- The first text has enough lines. -/
  left_enough : metadataLines ≤ left.length
  /-- So has the second. -/
  right_enough : metadataLines ≤ right.length
  /-- They agree on the line of the type. -/
  type : left[8]? = right[8]?
  /-- They agree on the lines of the extents that this type has, if it is one. -/
  extents : ∀ code, Integer.OnLine left 8 word32 code →
    left.take (ImageType.ofCode code).extentCount = right.take (ImageType.ofCode code).extentCount
  /-- They agree on the line of the channel order. -/
  order : left[6]? = right[6]?
  /-- They agree on the line of the channel data type. -/
  dataType : left[7]? = right[7]?

variable {text other : String} {descriptor : ImageDescriptor} {type : ImageType}
  {split left right : List (List Char)}

theorem exists_lines_of_enough (enough : metadataLines ≤ split.length) :
    ∃ width height depth fourth fifth sixth order dataType type rest,
      split = width :: height :: depth :: fourth :: fifth :: sixth :: order :: dataType ::
        type :: rest := by
  unfold metadataLines at enough
  match split, enough with
  | width :: height :: depth :: fourth :: fifth :: sixth :: order :: dataType :: type :: rest, _ =>
      exact ⟨_, _, _, _, _, _, _, _, _, _, rfl⟩

/-! ## The extent -/

/-- An extent is read exactly if as many lines as the type calls for are integers. -/
theorem parseShape_ok_iff {width height depth : List Char} {shape : ImageShape} :
    parseShape type width height depth = .ok shape ↔
      shape.OnLines ([width, height, depth].take type.extentCount) := by
  rcases type.extentCount_cases with count | count | count <;>
    cases shape <;>
    simp [parseShape, count, ImageShape.OnLines, ImageShape.extents, Outcome.bind_ok,
      Integer.parse_ok_iff]

theorem length_of_onLines {width height depth : List Char} {shape : ImageShape}
    (held : shape.OnLines ([width, height, depth].take type.extentCount)) :
    shape.extents.length = type.extentCount := by
  have bound : type.extentCount ≤ 3 := by
    rcases type.extentCount_cases with count | count | count <;> omega
  rw [← List.Forall₂.length_eq held, List.length_take]
  exact Nat.min_eq_left bound

/-- Only the lines that the type calls for matter. -/
theorem parseShape_congr {width height depth width' height' depth' : List Char}
    (same : [width, height, depth].take type.extentCount =
      [width', height', depth'].take type.extentCount) :
    parseShape type width height depth = parseShape type width' height' depth' := by
  rcases type.extentCount_cases with count | count | count <;>
    simp_all [parseShape]

/-! ## The whole descriptor -/

theorem take_extentCount {width height depth : List Char} {rest : List (List Char)} :
    (width :: height :: depth :: rest).take type.extentCount =
      [width, height, depth].take type.extentCount := by
  rcases type.extentCount_cases with count | count | count <;> simp [count]

/-- A descriptor is read exactly if it is the one that the lines hold. -/
theorem parse_ok_iff : parse text = .ok descriptor ↔ IsHeld (lines text.toList) descriptor := by
  unfold parse
  split
  · rename_i width height depth _ _ _ order dataType type rest split_eq
    simp only [Outcome.bind_ok, Integer.parseCode_ok_iff, parseShape_ok_iff, split_eq]
    constructor
    · rintro ⟨code, type_code, shape, shape_held, orderCode, order_code, dataCode, data_code, made⟩
      obtain rfl := Except.ok.inj made
      refine ⟨⟨code, ⟨type, rfl, type_code⟩, rfl⟩, length_of_onLines shape_held, ?_,
        ⟨order, rfl, order_code⟩, ⟨dataType, rfl, data_code⟩⟩
      rwa [take_extentCount]
    · rintro ⟨⟨code, ⟨_, ⟨⟩, type_code⟩, type_eq⟩, _, extents, ⟨_, ⟨⟩, order_code⟩,
        ⟨_, ⟨⟩, data_code⟩⟩
      rw [take_extentCount, type_eq] at extents
      obtain ⟨_, _, _⟩ := descriptor
      cases type_eq
      exact ⟨code, type_code, _, extents, _, order_code, _, data_code, rfl⟩
  · rename_i short
    constructor
    · simp
    · rintro ⟨⟨code, ⟨line, ninth, _⟩, _⟩, _⟩
      have enough : metadataLines ≤ (lines text.toList).length :=
        (List.getElem?_eq_some_iff.mp ninth).1
      obtain ⟨_, _, _, _, _, _, _, _, _, _, split_eq⟩ := exists_lines_of_enough enough
      exact (short _ _ _ _ _ _ _ _ _ _ split_eq).elim

theorem IsHeld.isMetadata (held : IsHeld split descriptor) : IsMetadata split := by
  obtain ⟨⟨code, type_line, type_eq⟩, _, extents, order, dataType⟩ := held
  have enough : metadataLines ≤ split.length := by
    obtain ⟨_, ninth, _⟩ := type_line
    exact (List.getElem?_eq_some_iff.mp ninth).1
  refine ⟨enough, ⟨code, type_line, fun line inside => ?_⟩, ⟨_, order⟩, ⟨_, dataType⟩⟩
  rw [← type_eq] at inside
  obtain ⟨extent, _, integer⟩ := Outcome.exists_of_mem_of_forall₂ extents.flip inside
  exact ⟨extent, integer⟩

/-- All metadata holds a descriptor. -/
theorem IsMetadata.exists_isHeld (metadata : IsMetadata split) :
    ∃ descriptor, IsHeld split descriptor := by
  obtain ⟨enough, ⟨code, type_line, integers⟩, ⟨order, order_line⟩, ⟨dataType, dataType_line⟩⟩ :=
    metadata
  obtain ⟨extents, extents_held⟩ := Outcome.exists_forall₂ integers
  have count : extents.length = (ImageType.ofCode code).extentCount := by
    unfold metadataLines at enough
    rcases (ImageType.ofCode code).extentCount_cases with count | count | count <;>
      rw [← extents_held.length_eq, List.length_take] <;> omega
  obtain ⟨shape, rfl⟩ := ImageShape.exists_extents_eq _ count
  exact ⟨⟨.ofCode code, ⟨order, dataType⟩, shape⟩, ⟨code, type_line, rfl⟩, count, extents_held,
    order_line, dataType_line⟩

/-- Lines that are not read make no difference, neither for a descriptor nor for an error. -/
theorem parse_congr (agree : Agree (lines text.toList) (lines other.toList)) :
    parse other = parse text := by
  obtain ⟨left_enough, right_enough, type_eq, extents_eq, order_eq, dataType_eq⟩ := agree
  obtain ⟨width, height, depth, _, _, _, order, dataType, type, _, text_lines⟩ :=
    exists_lines_of_enough left_enough
  obtain ⟨width', height', depth', _, _, _, order', dataType', type', _, other_lines⟩ :=
    exists_lines_of_enough right_enough
  rw [text_lines, other_lines] at type_eq extents_eq order_eq dataType_eq
  obtain rfl : type = type' := by simpa using type_eq
  obtain rfl : order = order' := by simpa using order_eq
  obtain rfl : dataType = dataType' := by simpa using dataType_eq
  simp only [parse, text_lines, other_lines]
  refine Outcome.bind_congr rfl fun code code_read => ?_
  have consumed := extents_eq code ⟨type, rfl, Integer.parseCode_ok_iff.mp code_read⟩
  have same := take_extentCount.symm.trans (consumed.trans take_extentCount)
  exact Outcome.bind_congr (parseShape_congr same.symm) fun _ _ => rfl

/-- A text is read as image metadata exactly if it is metadata, and the descriptor that it holds is
then the one that is read. What stands on lines that the type does not call for makes no difference,
neither for the descriptor nor for the error. -/
theorem metadata_read_exactly (text : String) :
    ((∃ descriptor, parse text = .ok descriptor) ↔ IsMetadata (lines text.toList)) ∧
      (∀ descriptor, parse text = .ok descriptor ↔ IsHeld (lines text.toList) descriptor) ∧
      ∀ other : String, Agree (lines text.toList) (lines other.toList) →
        parse other = parse text := by
  refine ⟨⟨?_, fun metadata => ?_⟩, fun _ => parse_ok_iff, fun _ => parse_congr⟩
  · rintro ⟨_, read⟩
    exact (parse_ok_iff.mp read).isMetadata
  · obtain ⟨descriptor, held⟩ := metadata.exists_isHeld
    exact ⟨descriptor, parse_ok_iff.mpr held⟩

/-- Metadata of a plane that holds something else on the lines that are not read. -/
def loosePlane : String := "0x40\r\n +32\t\nnone\n\n-1\n?\n4277\r\n0X10d2\n04337\nmore\nlines"

/-- The same metadata with numbers on all lines. -/
def plainPlane : String := "0x40\n +32\t\n1\n0\n0\n0\n4277\n0X10d2\n04337\n"

theorem loosePlane_read_as_plainPlane :
    IsMetadata (lines plainPlane.toList) ∧ parse loosePlane = parse plainPlane ∧
      parse loosePlane = .ok smallPlane := by
  have plain_read : parse plainPlane = .ok smallPlane := by decide +kernel
  have plain_lines : lines plainPlane.toList = ["0x40", " +32\t", "1", "0", "0", "0", "4277",
      "0X10d2", "04337"].map String.toList := by decide +kernel
  have loose_lines : lines loosePlane.toList = ["0x40", " +32\t", "none", "", "-1", "?", "4277",
      "0X10d2", "04337", "more", "lines"].map String.toList := by decide +kernel
  have agree : Agree (lines plainPlane.toList) (lines loosePlane.toList) := by
    rw [plain_lines, loose_lines]
    refine ⟨by decide, by decide, rfl, ?_, rfl, rfl⟩
    rintro code ⟨_, ⟨⟩, integer⟩
    -- The type on the ninth line is that of a plane, which has two extents.
    have computed : Integer.parseCode "image type" "04337".toList = .ok 4337 := by decide +kernel
    obtain rfl := Except.ok.inj ((Integer.parseCode_ok_iff.mpr integer).symm.trans computed)
    rfl
  have same := (metadata_read_exactly plainPlane).2.2 loosePlane agree
  exact ⟨(metadata_read_exactly plainPlane).1.mp ⟨_, plain_read⟩, same, same.trans plain_read⟩

end ImageDescriptor

end LaunchReplay
