import LaunchReplay.Proofs.Naming.OutputName

/-!
# Names of the files of one enqueue

The counter in a file name ends at the underscore after its digits, and no two counters have the
same digits, however many zeros are in front. So a file name starts as those of one enqueue at most,
and no pattern of another enqueue fits it.
-/

namespace LaunchReplay

open Text

theorem Text.ofDigitChars_decimalPadded (width number : Nat) :
    Nat.ofDigitChars 10 (decimalPadded width number).toList 0 = number := by
  rw [decimalPadded, String.toList_ofList, Nat.ofDigitChars_append,
    Nat.ofDigitChars_replicate_zero, Nat.mul_zero, Nat.ofDigitChars_ten_toDigits]

theorem Text.decimalPadded_injective (width : Nat) : Function.Injective (decimalPadded width) := by
  intro left right same
  rw [← ofDigitChars_decimalPadded width left, same, ofDigitChars_decimalPadded]

namespace Enqueue

variable {enqueue other : Enqueue} {name : String}

/-- Whether a file name starts as those of an enqueue do. -/
def Labels (enqueue : Enqueue) (name : String) : Prop :=
  enqueue.fileStart.toList <+: name.toList

instance (enqueue : Enqueue) (name : String) : Decidable (enqueue.Labels name) :=
  inferInstanceAs (Decidable (_ <+: _))

/-- The counter is read back from a file name as its digits up to the next underscore. -/
theorem padded_of_labels (labels : enqueue.Labels name) :
    (name.toList.drop "Enqueue_".toList.length).takeWhile Char.isDigit =
      enqueue.padded.toList := by
  obtain ⟨rest, split⟩ := labels
  have shape : name.toList = "Enqueue_".toList ++ (enqueue.padded.toList ++ '_' :: rest) := by
    rw [← split]
    simp [fileStart]
  have digits : ∀ letter ∈ enqueue.padded.toList, letter.isDigit = true :=
    fun _ => isDigit_of_mem_decimalPadded
  rw [shape, List.drop_left, List.takeWhile_append_of_pos digits]
  simp

/-- No file name starts as those of two enqueues. -/
theorem eq_of_labels (labels : enqueue.Labels name) (other_labels : other.Labels name) :
    enqueue = other := by
  have same : enqueue.padded = other.padded :=
    String.toList_inj.mp ((padded_of_labels labels).symm.trans (padded_of_labels other_labels))
  have index_eq : enqueue.index = other.index := decimalPadded_injective 4 same
  cases enqueue
  cases other
  cases index_eq
  rfl

/-- The patterns for the files of an enqueue: contents before the launch, captured outputs and
replayed outputs. -/
def patterns (enqueue : Enqueue) : List FilePattern :=
  [.preBuffer enqueue, .preImage enqueue, .post enqueue .buffer, .post enqueue .image,
    .test enqueue .buffer, .test enqueue .image]

theorem labels_of_fits {pattern : FilePattern} (listed : pattern ∈ enqueue.patterns)
    (fitting : pattern.fits name = true) : enqueue.Labels name := by
  have starts : enqueue.fileStart.toList <+: pattern.start.toList := by
    simp only [patterns, List.mem_cons, List.not_mem_nil, or_false] at listed
    rcases listed with rfl | rfl | rfl | rfl | rfl | rfl <;>
      simp [FilePattern.preBuffer, FilePattern.preImage, FilePattern.post, FilePattern.test]
  exact starts.trans (FilePattern.affixes_of_fits fitting).1

end Enqueue

end LaunchReplay
