import LaunchReplay.Proofs.Naming.FileStart

/-!
# Names of different outputs

The name of an output tells all that it is made of, whatever the name of the kernel looks like: the
counter ends at the first underscore behind it, the kind is in the ending, and the position is the
last run of digits before that. So outputs that differ in anything have different names.
-/

namespace LaunchReplay.Naming

open Text

variable {enqueue other : Enqueue} {kernel label : String} {position place : Nat}
  {kind form : OutputKind}

theorem labels_outputName (enqueue : Enqueue) (kernel : String) (position : Nat)
    (kind : OutputKind) : enqueue.Labels (outputName enqueue kernel position kind) := by
  simp [Enqueue.Labels, outputName, List.append_assoc]

theorem enqueue_of_outputName_eq
    (same : outputName enqueue kernel position kind = outputName other label place form) :
    enqueue = other := by
  have labels := labels_outputName enqueue kernel position kind
  rw [same] at labels
  exact Enqueue.eq_of_labels labels (labels_outputName other label place form)

theorem kind_of_outputName_eq
    (same : outputName enqueue kernel position kind = outputName enqueue label place form) :
    kind = form := by
  have fitting : (FilePattern.test enqueue kind).fits
      (outputName enqueue kernel position kind) = true :=
    FilePattern.fits_test_outputName.mpr rfl
  rw [same] at fitting
  exact FilePattern.fits_test_outputName.mp fitting

/-- The position behind a marker is the last run of digits, whatever is in front of the marker. -/
theorem trailingDigits_append (front : List Char) (number : Nat) :
    ((front ++ (positionMarker ++ Nat.toDigits 10 number)).reverse.takeWhile Char.isDigit).reverse =
      Nat.toDigits 10 number := by
  have digits : ∀ letter ∈ (Nat.toDigits 10 number).reverse, letter.isDigit = true :=
    fun letter inside => isDigit_of_mem_toDigits (List.mem_reverse.mp inside)
  rw [List.reverse_append, List.reverse_append, List.append_assoc,
    List.takeWhile_append_of_pos digits]
  simp [positionMarker_eq]

theorem eq_of_marked_eq {front back : List Char}
    (same : front ++ (positionMarker ++ Nat.toDigits 10 position) =
      back ++ (positionMarker ++ Nat.toDigits 10 place)) : front = back ∧ position = place := by
  have numerals : Nat.toDigits 10 position = Nat.toDigits 10 place := by
    rw [← trailingDigits_append front position, same, trailingDigits_append]
  rw [numerals] at same
  refine ⟨List.append_cancel_right same, ?_⟩
  rw [← Nat.ofDigitChars_ten_toDigits (n := position), numerals, Nat.ofDigitChars_ten_toDigits]

/-- Names of outputs are the same only if the outputs are of one enqueue, kernel, position and
kind. -/
theorem eq_of_outputName_eq
    (same : outputName enqueue kernel position kind = outputName other label place form) :
    enqueue = other ∧ kernel = label ∧ position = place ∧ kind = form := by
  obtain rfl := enqueue_of_outputName_eq same
  obtain rfl := kind_of_outputName_eq same
  have texts := congrArg String.toList same
  rw [toList_outputName, toList_outputName, List.append_cancel_right_eq,
    List.append_cancel_left_eq] at texts
  obtain ⟨kernels, positions⟩ := eq_of_marked_eq texts
  exact ⟨rfl, String.toList_inj.mp kernels, positions, rfl⟩

/-- The name of an output starts as those of its own enqueue only, so it fits no pattern of replayed
outputs but that of its enqueue and kind. -/
theorem fits_test_outputName_iff :
    (FilePattern.test other form).fits (outputName enqueue kernel position kind) = true ↔
      other = enqueue ∧ form = kind := by
  constructor
  · intro fitting
    have listed : FilePattern.test other form ∈ other.patterns := by
      cases form <;> simp [Enqueue.patterns]
    obtain rfl := Enqueue.eq_of_labels (Enqueue.labels_of_fits listed fitting)
      (labels_outputName enqueue kernel position kind)
    exact ⟨rfl, FilePattern.fits_test_outputName.mp fitting⟩
  · rintro ⟨rfl, rfl⟩
    exact FilePattern.fits_test_outputName.mpr rfl

/-- Outputs have the same name only if they are of one enqueue, kernel, position and kind, and the
name is found by the pattern of that enqueue and kind alone. -/
theorem outputName_identifies (enqueue other : Enqueue) (kernel label : String)
    (position place : Nat) (kind form : OutputKind) :
    (outputName enqueue kernel position kind = outputName other label place form ↔
        enqueue = other ∧ kernel = label ∧ position = place ∧ kind = form) ∧
      ((FilePattern.test other form).fits (outputName enqueue kernel position kind) = true ↔
        other = enqueue ∧ form = kind) := by
  refine ⟨⟨eq_of_outputName_eq, ?_⟩, fits_test_outputName_iff⟩
  rintro ⟨rfl, rfl, rfl, rfl⟩
  rfl

end LaunchReplay.Naming
