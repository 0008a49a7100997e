import LaunchReplay.Proofs.Integer

/-!
# Integers are read exactly

A text denotes one number at most. So a field is read exactly if what is left of it without white
space denotes a 64-bit word, and then as this word: no larger number is taken for a smaller one, and
no zeros before the digits stand in the way. Any other field is refused, with what is left of it.
-/

namespace LaunchReplay

/-- Letters are a numeral for one number only. -/
theorem Text.IsNumeralFor.unique {base number other : Nat} {letters : List Char}
    (small : base ≤ 16) (numeral : IsNumeralFor base letters number)
    (other_numeral : IsNumeralFor base letters other) : number = other := by
  have read : natural? base (max number other + 1) letters = some number :=
    (natural?_iff_isNumeralFor small).mpr ⟨numeral, by omega⟩
  have other_read : natural? base (max number other + 1) letters = some other :=
    (natural?_iff_isNumeralFor small).mpr ⟨other_numeral, by omega⟩
  exact Option.some.inj (read.symm.trans other_read)

namespace Integer

open Text

/-- Letters denote one number only. -/
theorem Denotes.unique {letters : List Char} {number other : Nat} (denotes : Denotes letters number)
    (other_denotes : Denotes letters other) : number = other :=
  (denotes_iff.mp denotes).unique (base_parts_le letters) (denotes_iff.mp other_denotes)

/-- A field is refused, with what is left of it, if that denotes no 64-bit word. -/
theorem parse_error_iff {field : String} {text : List Char} {error : DecodeError} :
    parse field text = .error error ↔
      error = .invalidInteger field (String.ofList (trim text)) ∧
        ¬ ∃ number < word64, Denotes (trim text) number := by
  rw [parse]
  cases read : ofTrimmed? (trim text) with
  | none =>
      have meaningless : ¬ ∃ number < word64, Denotes (trim text) number := by
        rintro ⟨number, below, denotes⟩
        rw [ofTrimmed?_eq_some_iff.mpr ⟨denotes, below⟩] at read
        cases read
      simp [meaningless, eq_comm]
  | some value =>
      obtain ⟨denotes, below⟩ := ofTrimmed?_eq_some_iff.mp read
      constructor
      · intro refused
        cases refused
      · rintro ⟨_, meaningless⟩
        exact absurd ⟨value, below, denotes⟩ meaningless

/-- What a field denotes decides about it, however large it is. -/
theorem parse_of_denotes {field : String} {text core : List Char} {number : Nat}
    (trims : Trims text core) (denotes : Denotes core number) :
    parse field text =
      if number < word64 then .ok number
      else .error (.invalidInteger field (String.ofList core)) := by
  obtain rfl := trims.trim_eq
  split
  · rename_i below
    exact parse_ok_iff.mpr ⟨isInteger_iff.mpr denotes, below⟩
  · rename_i large
    refine parse_error_iff.mpr ⟨rfl, ?_⟩
    rintro ⟨other, below, other_denotes⟩
    rw [denotes.unique other_denotes] at large
    exact large below

theorem Denotes.trims {before core after : List Char} {number : Nat} (denotes : Denotes core number)
    (before_blank : Blank before) (after_blank : Blank after) :
    Trims (before ++ core ++ after) core := by
  have trimmed := trims_trim (before ++ core ++ after)
  rwa [trim_of_solid before_blank denotes.solid after_blank] at trimmed

/-- A field is read exactly if what is left of it without white space denotes a 64-bit word, and is
refused with what is left of it otherwise, also for a larger number. With white space around them
all numerals of a number are read as this number, whatever zeros they start with, if it is a 64-bit
word, and none is read if it is not. -/
theorem parse_exact (field : String) :
    (∀ text, ∃ core, Trims text core ∧
      (∀ number, parse field text = .ok number ↔ Denotes core number ∧ number < 2 ^ 64) ∧
      (∀ error, parse field text = .error error ↔
        error = .invalidInteger field (String.ofList core) ∧
          ¬ ∃ number < 2 ^ 64, Denotes core number) ∧
      ∀ number, Denotes core number → 2 ^ 64 ≤ number →
        parse field text = .error (.invalidInteger field (String.ofList core))) ∧
    ∀ zeros number, ∀ form ∈ paddedForms zeros number, ∀ before after, Blank before → Blank after →
      parse field (before ++ form.toList ++ after) =
        if number < 2 ^ 64 then .ok number else .error (.invalidInteger field form) := by
  constructor
  · intro text
    have trims := trims_trim text
    refine ⟨trim text, trims, fun number => ?_, fun error => parse_error_iff, ?_⟩
    · rw [parse_ok_iff, isInteger_iff]
      rfl
    · intro number denotes large
      exact (parse_of_denotes trims denotes).trans (if_neg (Nat.not_lt.mpr large))
  · intro zeros number form padded before after before_blank after_blank
    have denotes := denotes_of_mem_paddedForms padded
    rw [parse_of_denotes (denotes.trims before_blank after_blank) denotes, String.ofList_toList]
    rfl

theorem parse_exact_padded :
    "0X00ff" ∈ paddedForms 2 255 ∧ Blank " \u2003".toList ∧ Blank "\r\n".toList ∧
      parse "enqueueNumber.txt" (" \u2003".toList ++ "0X00ff".toList ++ "\r\n".toList) =
        .ok 255 := by
  have padded : "0X00ff" ∈ paddedForms 2 255 := by decide
  have before_blank : Blank " \u2003".toList := by decide
  have after_blank : Blank "\r\n".toList := by decide
  refine ⟨padded, before_blank, after_blank, ?_⟩
  exact ((parse_exact "enqueueNumber.txt").2 2 255 "0X00ff" padded _ _ before_blank
    after_blank).trans (if_pos (by decide))

end Integer

end LaunchReplay
