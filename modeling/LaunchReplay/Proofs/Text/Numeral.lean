import LaunchReplay.Text.DecimalDigit
import LaunchReplay.Text.Numeral

/-!
# Numerals are read back

The decimal numeral of a number consists of ASCII digits, with or without zeros before it, and
denotes that number again wherever the bound allows it.
-/

namespace LaunchReplay.Text

theorem isDecimalDigit_of_isDigit {letter : Char} (digit : letter.isDigit = true) :
    isDecimalDigit letter = true := by
  have range : 0x30 ≤ letter.toNat ∧ letter.toNat ≤ 0x39 := by
    simpa [Char.isDigit, UInt32.le_iff_toNat_le] using digit
  rw [isDecimalDigit, inRanges_iff]
  exact ⟨(0x30, 0x39), List.mem_cons_self, range⟩

theorem digit?_of_isDigit {letter : Char} (digit : letter.isDigit = true) :
    digit? 10 letter = some (letter.toNat - 48) := by
  have range : 48 ≤ letter.toNat ∧ letter.toNat ≤ 57 := by
    simpa [Char.isDigit, UInt32.le_iff_toNat_le] using digit
  have below : letter.toNat - 48 < 10 := by omega
  simp [digit?, range, below]

theorem isDigit_of_digit? {letter : Char} {value : Nat} (read : digit? 10 letter = some value) :
    letter.isDigit = true := by
  have range : 48 ≤ letter.toNat ∧ letter.toNat ≤ 57 := by
    by_cases inside : 48 ≤ letter.toNat ∧ letter.toNat ≤ 57
    · exact inside
    · -- Letters stand for numbers from ten on, which are no decimal digits.
      simp only [digit?, if_neg inside] at read
      obtain ⟨below, _⟩ := Option.ite_none_right_eq_some.mp read
      split at below
      · omega
      · split at below <;> omega
  simpa [Char.isDigit, UInt32.le_iff_toNat_le] using range

theorem mapM_digit?_of_isDigit {digits : List Char}
    (decimal : ∀ letter ∈ digits, letter.isDigit = true) :
    digits.mapM (digit? 10) = some (digits.map fun letter => letter.toNat - 48) := by
  induction digits with
  | nil => rfl
  | cons letter rest induction =>
      rw [List.mapM_cons, digit?_of_isDigit (decimal letter (by simp)),
        induction fun other other_mem => decimal other (by simp [other_mem])]
      rfl

theorem isDigit_of_mapM_digit? {digits : List Char} {values : List Nat}
    (read : digits.mapM (digit? 10) = some values) : ∀ letter ∈ digits, letter.isDigit = true := by
  induction digits generalizing values with
  | nil => simp
  | cons letter rest induction =>
      rw [List.mapM_cons, Option.bind_eq_bind, Option.bind_eq_some_iff] at read
      obtain ⟨_, first, read⟩ := read
      obtain ⟨_, later, _⟩ := Option.bind_eq_some_iff.mp read
      rw [List.forall_mem_cons]
      exact ⟨isDigit_of_digit? first, induction later⟩

/-- ASCII digits are all read, and denote the number that they stand for. -/
theorem natural?_of_isDigit {digits : List Char} {bound : Nat} (nonempty : digits ≠ [])
    (decimal : ∀ letter ∈ digits, letter.isDigit = true) :
    natural? 10 bound digits =
      if Nat.ofDigitChars 10 digits 0 < bound then some (Nat.ofDigitChars 10 digits 0)
      else none := by
  have value : numeralValue 10 (digits.map fun letter => letter.toNat - 48) =
      Nat.ofDigitChars 10 digits 0 := by
    rw [numeralValue, List.foldl_map, Nat.ofDigitChars_eq_foldl]
    congr 1
    funext sum letter
    rw [Nat.mul_comm]
    rfl
  simp [natural?, nonempty, mapM_digit?_of_isDigit decimal, value]

/-- What is read is a numeral of ASCII digits for the number that they stand for, within the
bound. -/
theorem natural?_eq_some_iff {digits : List Char} {bound value : Nat} :
    natural? 10 bound digits = some value ↔
      digits ≠ [] ∧ (∀ letter ∈ digits, letter.isDigit = true) ∧
        Nat.ofDigitChars 10 digits 0 = value ∧ value < bound := by
  constructor
  · intro read
    have nonempty : digits ≠ [] := by
      rintro rfl
      cases read
    have decimal : ∀ letter ∈ digits, letter.isDigit = true := by
      rw [natural?, if_neg (by simpa using nonempty)] at read
      split at read
      · cases read
      · exact isDigit_of_mapM_digit? ‹_›
    rw [natural?_of_isDigit nonempty decimal, Option.ite_none_right_eq_some,
      Option.some_inj] at read
    obtain ⟨below, rfl⟩ := read
    exact ⟨nonempty, decimal, rfl, below⟩
  · rintro ⟨nonempty, decimal, rfl, below⟩
    rw [natural?_of_isDigit nonempty decimal, if_pos below]

@[simp]
theorem toList_decimal (number : Nat) : (decimal number).toList = Nat.toDigits 10 number := by
  rw [decimal, Nat.toString_eq_repr, Nat.toList_repr]

theorem isDigit_of_mem_toDigits {number : Nat} {letter : Char}
    (inside : letter ∈ Nat.toDigits 10 number) : letter.isDigit = true :=
  Nat.isDigit_of_mem_toDigits (by decide) (by decide) inside

/-- A decimal numeral starts with a digit. -/
theorem toDigits_starts (number : Nat) :
    ∃ letter tail, Nat.toDigits 10 number = letter :: tail ∧ letter.isDigit = true := by
  obtain ⟨letter, tail, digits_eq⟩ :=
    List.exists_cons_of_ne_nil (Nat.toDigits_ne_nil (n := number) (b := 10))
  have inside : letter ∈ Nat.toDigits 10 number := by simp [digits_eq]
  exact ⟨letter, tail, digits_eq, isDigit_of_mem_toDigits inside⟩

/-- Only the numeral of zero starts with a zero. -/
theorem eq_zero_of_toDigits {number : Nat} {digits : List Char}
    (leading : Nat.toDigits 10 number = '0' :: digits) : number = 0 := by
  induction number using Nat.strongRecOn generalizing digits with
  | ind number induction =>
      by_cases single : number < 10
      · rw [Nat.toDigits_of_lt_base single] at leading
        exact Nat.digitChar_eq_zero.mp (List.cons.inj leading).1
      · rw [Nat.toDigits_of_base_le (by decide) (Nat.not_lt.mp single)] at leading
        obtain ⟨letter, front, front_eq, _⟩ := toDigits_starts (number / 10)
        rw [front_eq, List.cons_append] at leading
        obtain rfl := (List.cons.inj leading).1
        have quotient := induction (number / 10) (by omega) front_eq
        omega

/-- A decimal numeral is read back. -/
theorem natural?_toDigits {number bound : Nat} (below : number < bound) :
    natural? 10 bound (Nat.toDigits 10 number) = some number :=
  natural?_eq_some_iff.mpr ⟨Nat.toDigits_ne_nil, fun _ => isDigit_of_mem_toDigits,
    Nat.ofDigitChars_ten_toDigits, below⟩

theorem isDigit_of_mem_decimalPadded {width number : Nat} {letter : Char}
    (inside : letter ∈ (decimalPadded width number).toList) : letter.isDigit = true := by
  rw [decimalPadded, String.toList_ofList] at inside
  rcases List.mem_append.mp inside with zero | digit
  · rw [(List.mem_replicate.mp zero).2]
    rfl
  · exact isDigit_of_mem_toDigits digit

theorem decimalPadded_ne_nil (width number : Nat) : (decimalPadded width number).toList ≠ [] := by
  rw [decimalPadded, String.toList_ofList]
  exact List.append_ne_nil_of_right_ne_nil _ Nat.toDigits_ne_nil

end LaunchReplay.Text
