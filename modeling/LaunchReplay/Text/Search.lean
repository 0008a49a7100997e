/-!
# Occurrences

One sequence inside another, for characters and for bytes alike.
-/

namespace LaunchReplay.Text

variable {α : Type} [BEq α]

/-- Whether a sequence occurs without gaps somewhere in another; the empty one occurs in all. -/
def occurs (needle : List α) : List α → Bool
  | [] => needle.isEmpty
  | head :: rest => needle.isPrefixOf (head :: rest) || occurs needle rest

theorem occurs_iff [LawfulBEq α] {needle haystack : List α} :
    occurs needle haystack = true ↔ ∃ before after, haystack = before ++ needle ++ after := by
  induction haystack with
  | nil =>
      simp only [occurs, List.isEmpty_iff]
      constructor
      · rintro rfl
        exact ⟨[], [], rfl⟩
      · rintro ⟨before, after, split⟩
        have lengths := congrArg List.length split
        simp at lengths
        exact List.length_eq_zero_iff.mp (by omega)
  | cons head rest induction =>
      simp only [occurs, Bool.or_eq_true, induction, List.isPrefixOf_iff_prefix]
      constructor
      · rintro (⟨after, split⟩ | ⟨before, after, split⟩)
        · exact ⟨[], after, by simpa using split.symm⟩
        · exact ⟨head :: before, after, by simp [split]⟩
      · rintro ⟨before, after, split⟩
        cases before with
        | nil => exact .inl ⟨after, by simpa using split.symm⟩
        | cons first before =>
            simp only [List.cons_append, List.cons.injEq] at split
            exact .inr ⟨before, after, by simp [split.2]⟩

end LaunchReplay.Text
