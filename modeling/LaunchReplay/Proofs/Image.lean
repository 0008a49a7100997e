import LaunchReplay.Capture.Arguments
import LaunchReplay.Proofs.Outcome
import Mathlib.Algebra.Order.BigOperators.GroupWithZero.List
import Mathlib.Algebra.Order.Ring.Nat
import Mathlib.Data.List.Induction

/-!
# The content of an image

The content of an image is checked against the exact product of its pixel size and its extents, as
long as the products on the way to it can be counted in 64-bit words. Where they cannot the check
has no answer, because a program with overflow checks is aborted at the multiplication: nothing is
taken for complete because a product has wrapped around, and no length is right, not even the exact
one.
-/

namespace LaunchReplay

/-- A product of sizes is their exact product, if that is a word. -/
theorem sizeProduct?_eq_some_iff {left right product : Nat} :
    sizeProduct? left right = some product ↔
      left * right < Text.word64 ∧ left * right = product := by
  simp [sizeProduct?]

/-- Multiplying factors from the left gives their exact product, if each product on the way is a
word. -/
theorem foldlM_sizeProduct?_eq_some_iff {factors : List Nat} {product : Nat} :
    factors.foldlM sizeProduct? 1 = some product ↔
      (∀ leading, leading <+: factors → leading.prod < Text.word64) ∧ factors.prod = product := by
  induction factors using List.reverseRecOn generalizing product with
  | nil => simp [List.prefix_nil, Text.word64]
  | append_singleton factors factor induction =>
      simp only [List.foldlM_append, Option.bind_eq_bind, Option.bind_eq_some_iff, induction,
        List.foldlM_cons, List.foldlM_nil, sizeProduct?_eq_some_iff, List.prefix_concat_iff]
      constructor
      · rintro ⟨_, ⟨words, rfl⟩, _, ⟨word, rfl⟩, last⟩
        cases last
        refine ⟨?_, by simp⟩
        rintro leading (rfl | earlier)
        · simpa using word
        · exact words leading earlier
      · rintro ⟨words, rfl⟩
        refine ⟨_, ⟨fun leading earlier => words leading (.inr earlier), rfl⟩, _, ⟨?_, rfl⟩, ?_⟩
        · simpa using words _ (.inl rfl)
        · simp

/-- A last factor of one does not matter. -/
theorem foldlM_sizeProduct?_concat_one (factors : List Nat) :
    (factors ++ [1]).foldlM sizeProduct? 1 = factors.foldlM sizeProduct? 1 := by
  rw [List.foldlM_append]
  cases whole : factors.foldlM sizeProduct? 1 with
  | none => rfl
  | some product =>
      obtain ⟨words, rfl⟩ := foldlM_sizeProduct?_eq_some_iff.mp whole
      have word := words factors (List.prefix_refl _)
      change [1].foldlM sizeProduct? factors.prod = _
      simp [sizeProduct?, word]

namespace ImageShape

/-- Whether the pixels and bytes of an image are counted in words, the pixels along the extents and
then the bytes. -/
structure Counted (shape : ImageShape) (pixel : Nat) : Prop where
  /-- Every product of leading extents is a word. -/
  pixels : ∀ leading, leading <+: shape.extents → leading.prod < Text.word64
  /-- So is the number of bytes. -/
  bytes : pixel * shape.extents.prod < Text.word64

/-- The ones that fill up an extent to three components do not matter for the number of pixels. -/
theorem pixelCount?_eq_some_iff {shape : ImageShape} {count : Nat} :
    shape.pixelCount? = some count ↔
      (∀ leading, leading <+: shape.extents → leading.prod < Text.word64) ∧
        shape.extents.prod = count := by
  rw [← foldlM_sizeProduct?_eq_some_iff]
  cases shape with
  | line width =>
      have filled : [width, 1, 1].foldlM sizeProduct? 1 = [width].foldlM sizeProduct? 1 :=
        (foldlM_sizeProduct?_concat_one [width, 1]).trans (foldlM_sizeProduct?_concat_one [width])
      exact filled ▸ Iff.rfl
  | plane width height =>
      exact foldlM_sizeProduct?_concat_one [width, height] ▸ Iff.rfl
  | volume width height depth => rfl

/-- Where no extent is zero, only the number of bytes has to be a word. -/
theorem counted_iff_of_pos {shape : ImageShape} {pixel : Nat} (sized : 0 < pixel)
    (positive : ∀ extent ∈ shape.extents, 0 < extent) :
    shape.Counted pixel ↔ pixel * shape.extents.prod < Text.word64 := by
  refine ⟨fun counted => counted.bytes, fun bytes => ⟨fun leading first => ?_, bytes⟩⟩
  have product_pos : 0 < shape.extents.prod := List.prod_pos positive
  have divides : leading.prod ∣ shape.extents.prod := by
    obtain ⟨rest, split⟩ := first
    exact ⟨rest.prod, by rw [← split, List.prod_append]⟩
  calc
    leading.prod ≤ shape.extents.prod := Nat.le_of_dvd product_pos divides
    _ ≤ pixel * shape.extents.prod := Nat.le_mul_of_pos_left _ sized
    _ < Text.word64 := bytes

end ImageShape

namespace ImageFormat

theorem pixelSize?_pos {format : ImageFormat} {pixel : Nat}
    (size : format.pixelSize? = some pixel) : 0 < pixel := by
  unfold pixelSize? at size
  split at size
  · rename_i packed
    cases size
    unfold packedSize? at packed
    split at packed <;> cases packed <;> decide
  · obtain ⟨channels, counted, size⟩ := Option.bind_eq_some_iff.mp size
    obtain ⟨bytes, measured, size⟩ := Option.bind_eq_some_iff.mp size
    cases size
    unfold channelCount? at counted
    unfold channelSize? at measured
    refine Nat.mul_pos ?_ ?_
    · split at counted <;> cases counted <;> decide
    · split at measured <;> cases measured <;> decide

end ImageFormat

namespace ImageDescriptor

variable {descriptor : ImageDescriptor} {pixel : Nat}

/-- Whether content of a length covers exactly the image: any length does if the pixel size is
unknown, or else only the product of the pixel size and all extents. -/
def Covers (descriptor : ImageDescriptor) (length : Nat) : Prop :=
  ∀ pixel, descriptor.format.pixelSize? = some pixel →
    length = pixel * descriptor.shape.extents.prod

/-- Whether the size of an image is counted in words, if it is counted at all. -/
def IsCounted (descriptor : ImageDescriptor) : Prop :=
  ∀ pixel, descriptor.format.pixelSize? = some pixel → descriptor.shape.Counted pixel

/-- An image that is counted has exactly as many bytes as its pixels take. -/
theorem byteLength_of_counted (size : descriptor.format.pixelSize? = some pixel)
    (counted : descriptor.shape.Counted pixel) :
    descriptor.byteLength = .known (pixel * descriptor.shape.extents.prod) := by
  rw [byteLength, size]
  have pixels := ImageShape.pixelCount?_eq_some_iff.mpr ⟨counted.pixels, rfl⟩
  have bytes := sizeProduct?_eq_some_iff.mpr ⟨counted.bytes, rfl⟩
  simp only [pixels, Option.bind_some, bytes]

theorem byteLength_of_not_counted (size : descriptor.format.pixelSize? = some pixel)
    (uncounted : ¬descriptor.shape.Counted pixel) : descriptor.byteLength = .overflow := by
  rw [byteLength, size]
  have absent : descriptor.shape.pixelCount?.bind (sizeProduct? pixel) = none := by
    apply Option.eq_none_iff_forall_ne_some.mpr
    intro length made
    obtain ⟨count, pixels, bytes⟩ := Option.bind_eq_some_iff.mp made
    obtain ⟨words, rfl⟩ := ImageShape.pixelCount?_eq_some_iff.mp pixels
    exact uncounted ⟨words, (sizeProduct?_eq_some_iff.mp bytes).1⟩
  simp only [absent]

/-- Content that covers an image that is counted is accepted. -/
theorem checkLength_of_covers {length : Nat} (counted : descriptor.IsCounted)
    (covers : descriptor.Covers length) : descriptor.checkLength length = .ok () := by
  rw [checkLength]
  cases size : descriptor.format.pixelSize? with
  | none => rw [byteLength, size]
  | some pixel =>
      rw [byteLength_of_counted size (counted pixel size)]
      exact if_pos (covers pixel size)

/-- Content of another length is refused, with the length that the image needs. -/
theorem checkLength_of_not_covers {length : Nat} (counted : descriptor.IsCounted)
    (differs : ¬descriptor.Covers length) :
    ∃ expected, descriptor.Covers expected ∧
      descriptor.checkLength length = .error (.contentLength length expected) := by
  rw [Covers] at differs
  push Not at differs
  obtain ⟨pixel, size, other⟩ := differs
  refine ⟨pixel * descriptor.shape.extents.prod, fun found found_size => ?_, ?_⟩
  · rw [Option.some.inj (size.symm.trans found_size)]
  · rw [checkLength, byteLength_of_counted size (counted pixel size)]
    exact if_neg other

theorem checkLength_of_not_counted (length : Nat) (uncounted : ¬descriptor.IsCounted) :
    descriptor.checkLength length = .error .sizeOverflow := by
  rw [IsCounted] at uncounted
  push Not at uncounted
  obtain ⟨pixel, size, uncounted⟩ := uncounted
  rw [checkLength, byteLength_of_not_counted size uncounted]

/-- An image whose size is counted in words takes exactly the content that covers it, and content of
any other length makes a capture malformed. No content of an image whose size cannot be counted is
taken or called malformed; if no extent is zero, these are the images of more bytes than a word
counts. -/
theorem checkLength_exact (descriptor : ImageDescriptor) (length : Nat) :
    (descriptor.IsCounted →
      (descriptor.Covers length → descriptor.checkLength length = .ok ()) ∧
      (¬descriptor.Covers length → ∃ expected, descriptor.Covers expected ∧
        descriptor.checkLength length = .error (.contentLength length expected) ∧
        ∀ path : Path, Artifact.decoded path (descriptor.checkLength length) =
          .error (.malformed path (.contentLength length expected)))) ∧
    (¬descriptor.IsCounted → descriptor.checkLength length = .error .sizeOverflow) ∧
    ((∀ extent ∈ descriptor.shape.extents, 0 < extent) →
      (descriptor.IsCounted ↔ ∀ pixel, descriptor.format.pixelSize? = some pixel →
        pixel * descriptor.shape.extents.prod < Text.word64)) := by
  refine ⟨fun counted => ⟨checkLength_of_covers counted, fun differs => ?_⟩,
    checkLength_of_not_counted length, fun positive => ?_⟩
  · obtain ⟨expected, covers, refused⟩ := checkLength_of_not_covers counted differs
    exact ⟨expected, covers, refused, fun path => by rw [refused]; rfl⟩
  · refine forall_congr' fun pixel => forall_congr' fun size => ?_
    exact ImageShape.counted_iff_of_pos (ImageFormat.pixelSize?_pos size) positive

/-- A small image of four bytes a pixel. -/
def smallPlane : ImageDescriptor := ⟨.image2D, ⟨0x10B5, 0x10D2⟩, .plane 64 32⟩

/-- An image without depth whose other extents have a product beyond all words. -/
def flatVolume : ImageDescriptor :=
  ⟨.image3D, ⟨0x10B5, 0x10D2⟩, .volume 1099511627776 1099511627776 0⟩

theorem not_isCounted_flatVolume : ¬flatVolume.IsCounted := fun counted =>
  absurd ((counted 4 (by decide)).pixels [1099511627776, 1099511627776] (by decide)) (by decide)

theorem checkLength_smallPlane_flatVolume :
    (smallPlane.IsCounted ∧ smallPlane.Covers 8192 ∧ smallPlane.checkLength 8192 = .ok () ∧
      ¬smallPlane.Covers 16 ∧
      smallPlane.checkLength 16 = .error (.contentLength 16 8192)) ∧
    ¬flatVolume.IsCounted ∧ flatVolume.checkLength 0 = .error .sizeOverflow := by
  have size : smallPlane.format.pixelSize? = some 4 := by decide
  have counted : smallPlane.IsCounted := by
    refine ((checkLength_exact smallPlane 16).2.2 (by decide)).mpr fun pixel found => ?_
    cases size.symm.trans found
    decide
  have covers : smallPlane.Covers 8192 := fun pixel found => by
    cases size.symm.trans found
    rfl
  have differs : ¬smallPlane.Covers 16 := fun covers => absurd (covers 4 size) (by decide)
  obtain ⟨expected, expected_covers, refused, _⟩ :=
    ((checkLength_exact smallPlane 16).1 counted).2 differs
  obtain rfl : expected = 8192 := expected_covers 4 size
  exact ⟨⟨counted, covers, ((checkLength_exact smallPlane 8192).1 counted).1 covers, differs,
    refused⟩, not_isCounted_flatVolume,
    (checkLength_exact flatVolume 0).2.1 not_isCounted_flatVolume⟩

/-- The image without depth needs no content, and yet empty content is not taken for it. -/
theorem checkLength_flatVolume_of_metadata :
    parse "1099511627776\n1099511627776\n0\n0\n0\n0\n4277\n4306\n4338\n" = .ok flatVolume ∧
      flatVolume.Covers 0 ∧ flatVolume.checkLength 0 = .error .sizeOverflow := by
  refine ⟨by decide +kernel, fun pixel found => ?_, by decide +kernel⟩
  cases (show flatVolume.format.pixelSize? = some 4 by decide).symm.trans found
  rfl

end ImageDescriptor

end LaunchReplay
