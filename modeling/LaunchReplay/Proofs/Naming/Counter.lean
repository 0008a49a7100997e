import LaunchReplay.Proofs.Naming.FileStart

/-!
# The counter and the position in a file name

The counter at the start of a file name is passed over if a marker behind it has a digit. Where none
has, the counter is the first number in the name and is read as the position. The patterns ask for a
marker only, so there are names which fit them and from which the counter is read.
-/

namespace LaunchReplay.Naming

open Text

variable (enqueue : Enqueue) {rest : String}

theorem firstDigits_fileStart (text : List Char) :
    firstDigits (enqueue.fileStart.toList ++ text) = enqueue.padded.toList := by
  have padded_digits : ∀ letter ∈ enqueue.padded.toList, isDecimalDigit letter = true :=
    fun letter inside => isDecimalDigit_of_isDigit (isDigit_of_mem_decimalPadded inside)
  obtain ⟨first, others, padded_eq⟩ :=
    List.exists_cons_of_ne_nil (decimalPadded_ne_nil 4 enqueue.index)
  have first_digit : isDecimalDigit first = true := padded_digits first (by
    rw [Enqueue.padded, padded_eq]
    exact List.mem_cons_self)
  have shape : enqueue.fileStart.toList ++ text =
      "Enqueue_".toList ++ (enqueue.padded.toList ++ '_' :: text) := by
    simp [Enqueue.fileStart]
  have before : ∀ letter ∈ "Enqueue_".toList, (!isDecimalDigit letter) = true :=
    List.all_eq_true.mp (by decide)
  have dropped : (enqueue.padded.toList ++ '_' :: text).dropWhile (fun letter =>
      !isDecimalDigit letter) = enqueue.padded.toList ++ '_' :: text := by
    rw [show enqueue.padded.toList = first :: others from padded_eq, List.cons_append,
      List.dropWhile_cons_of_neg (by simp [first_digit])]
  have ended : leadingDigits ('_' :: text) = [] := List.takeWhile_cons_of_neg (by decide)
  rw [firstDigits, shape, List.dropWhile_append_of_pos before, dropped, leadingDigits_append ended]
  exact List.takeWhile_eq_self_iff.mpr padded_digits

theorem positionOfDigits?_padded :
    positionOfDigits? enqueue.padded.toList =
      if enqueue.index < word32 then some enqueue.index else none := by
  rw [positionOfDigits?, Enqueue.padded, natural?_of_isDigit (decimalPadded_ne_nil 4 enqueue.index)
    fun _ => isDigit_of_mem_decimalPadded, ofDigitChars_decimalPadded]

theorem position?_of_embeds (embeds : EmbedsPosition rest) :
    position? (enqueue.fileStart ++ rest) = positionOfDigits? (embeddedDigits rest) := by
  have digits : markedDigits (enqueue.fileStart ++ rest).toList = embeddedDigits rest := by
    rw [String.toList_append, markedDigits_fileStart, embeddedDigits]
  have found := embedsPosition_iff.mp embeds
  rw [← digits] at found
  rw [position?, positionDigits_of_marked found, digits]

/-- Where no marker has a digit, the counter is read. -/
theorem position?_of_silent (silent : ¬ EmbedsPosition rest) :
    position? (enqueue.fileStart ++ rest) =
      if enqueue.index < word32 then some enqueue.index else none := by
  have quiet : markedDigits (enqueue.fileStart ++ rest).toList = [] := by
    rw [String.toList_append, markedDigits_fileStart]
    exact embeddedDigits_of_silent silent
  rw [position?, positionDigits_of_quiet quiet, String.toList_append, firstDigits_fileStart,
    positionOfDigits?_padded]

/-- The position that is read from a file name does not depend on the counter at its start exactly
if a marker behind the counter has a digit, or neither counter can be a position. -/
theorem position?_fileStart_eq_iff (enqueue other : Enqueue) (rest : String) :
    position? (enqueue.fileStart ++ rest) = position? (other.fileStart ++ rest) ↔
      EmbedsPosition rest ∨ enqueue = other ∨ word32 ≤ enqueue.index ∧ word32 ≤ other.index := by
  by_cases embeds : EmbedsPosition rest
  · simp [embeds, position?_of_embeds]
  · rw [position?_of_silent enqueue embeds, position?_of_silent other embeds]
    have same_iff : enqueue = other ↔ enqueue.index = other.index := by
      cases enqueue
      cases other
      simp
    simp only [embeds, false_or, same_iff]
    split <;> split <;> simp <;> omega

/-- A name that fits all three patterns for buffers of its enqueue, and from which the counter is
read as the position. -/
theorem counter_read_as_position :
    (FilePattern.preBuffer ⟨1⟩).fits (Enqueue.fileStart ⟨1⟩ ++ "Kernel_f_Arg__Buffer.bin") ∧
      (FilePattern.post ⟨1⟩ .buffer).fits (Enqueue.fileStart ⟨1⟩ ++ "Kernel_f_Arg__Buffer.bin") ∧
      (FilePattern.test ⟨1⟩ .buffer).fits (Enqueue.fileStart ⟨1⟩ ++ "Kernel_f_Arg__Buffer.bin") ∧
      position? (Enqueue.fileStart ⟨1⟩ ++ "Kernel_f_Arg__Buffer.bin") = some 1 ∧
      position? (Enqueue.fileStart ⟨2⟩ ++ "Kernel_f_Arg__Buffer.bin") = some 2 := by
  decide

end LaunchReplay.Naming
