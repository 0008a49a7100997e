import LaunchReplay.Integer
import LaunchReplay.Proofs.Outcome
import LaunchReplay.Proofs.Text.Lines
import LaunchReplay.Proofs.Text.Numeral
import Mathlib.Data.Nat.Digits.Defs

/-!
# The grammar of integer fields

An integer is one or more digits, decimal or hexadecimal after a mark, with perhaps a plus sign
before them and with any white space around it. A field is read exactly if its text is an integer
for a number in the range of the field, and it has that number.
-/

namespace LaunchReplay

namespace Text

/-- Whether a letter is the digit of a base for a number, in either case. -/
def IsDigitFor (base : Nat) (letter : Char) (number : Nat) : Prop :=
  number < base ∧ (letter = number.digitChar ∨ letter = number.digitChar.toUpper)

/-- Whether letters are a numeral in a base for a number: the number has some digits, perhaps with
zeros before them, and the letters stand for these, the most significant first. -/
def IsNumeralFor (base : Nat) (letters : List Char) (number : Nat) : Prop :=
  ∃ digits, digits ≠ [] ∧ List.Forall₂ (IsDigitFor base) letters digits.reverse ∧
    Nat.ofDigits base digits = number

/-- A digit of a smaller base is a hexadecimal digit for a number below that base. -/
theorem digit?_iff_hexadecimal {base number : Nat} {letter : Char} (small : base ≤ 16) :
    digit? base letter = some number ↔ digit? 16 letter = some number ∧ number < base := by
  have same_value : ∀ value, value < base ∧ value = number ↔
      (value < 16 ∧ value = number) ∧ number < base := by
    intro value
    constructor
    · rintro ⟨below, rfl⟩
      exact ⟨⟨below.trans_le small, rfl⟩, below⟩
    · rintro ⟨⟨_, rfl⟩, below⟩
      exact ⟨below, rfl⟩
  simp only [digit?, Option.ite_none_right_eq_some, Option.some_inj]
  split
  · exact same_value _
  · split
    · exact same_value _
    · split
      · exact same_value _
      · simp

theorem isDigitFor_of_digit? {number : Nat} {letter : Char}
    (read : digit? 16 letter = some number) : IsDigitFor 16 letter number := by
  have ascii : letter.toNat < 128 := by
    simp only [digit?, Option.ite_none_right_eq_some] at read
    split at read
    · omega
    · split at read
      · omega
      · split at read <;> omega
  have table : ∀ code < 128, ∀ number ∈ digit? 16 (Char.ofNat code),
      number < 16 ∧ (Char.ofNat code = number.digitChar ∨
        Char.ofNat code = number.digitChar.toUpper) := by decide
  have shown := table letter.toNat ascii number
  rw [Char.ofNat_toNat] at shown
  exact shown read

theorem digit?_eq_some_iff {base number : Nat} {letter : Char} (small : base ≤ 16) :
    digit? base letter = some number ↔ IsDigitFor base letter number := by
  rw [digit?_iff_hexadecimal small]
  constructor
  · rintro ⟨read, below⟩
    exact ⟨below, (isDigitFor_of_digit? read).2⟩
  · rintro ⟨below, shown⟩
    have table : ∀ number < 16, digit? 16 number.digitChar = some number ∧
        digit? 16 number.digitChar.toUpper = some number := by decide
    obtain ⟨lower, upper⟩ := table number (by omega)
    refine ⟨?_, below⟩
    rcases shown with rfl | rfl
    · exact lower
    · exact upper

theorem mapM_digit?_eq_some_iff {base : Nat} {letters : List Char} {digits : List Nat}
    (small : base ≤ 16) :
    letters.mapM (digit? base) = some digits ↔ List.Forall₂ (IsDigitFor base) letters digits := by
  induction letters generalizing digits with
  | nil => simp [eq_comm]
  | cons letter rest induction =>
      simp only [List.mapM_cons, Option.bind_eq_bind, Option.bind_eq_some_iff, induction,
        digit?_eq_some_iff small, List.forall₂_cons_left_iff]
      constructor
      · rintro ⟨digit, first, others, remaining, made⟩
        exact ⟨digit, others, first, remaining, (Option.some.inj made).symm⟩
      · rintro ⟨digit, others, first, remaining, rfl⟩
        exact ⟨digit, first, others, remaining, rfl⟩

theorem numeralValue_eq_ofDigits (base : Nat) (digits : List Nat) :
    numeralValue base digits = Nat.ofDigits base digits.reverse := by
  rw [Nat.ofDigits_eq_foldr, List.foldr_reverse, numeralValue]
  congr 1
  funext value digit
  rw [Nat.cast_id]
  ring

/-- The numerals that are read are those for numbers below the bound. -/
theorem natural?_iff_isNumeralFor {base bound number : Nat} {letters : List Char}
    (small : base ≤ 16) : natural? base bound letters = some number ↔
      IsNumeralFor base letters number ∧ number < bound := by
  constructor
  · intro read
    unfold natural? at read
    split at read
    · cases read
    · rename_i nonempty
      split at read
      · cases read
      · rename_i digits digits_read
        obtain ⟨below, value⟩ := Option.ite_none_right_eq_some.mp read
        obtain rfl := Option.some.inj value
        have letters_digits := (mapM_digit?_eq_some_iff small).mp digits_read
        refine ⟨⟨digits.reverse, ?_, ?_, (numeralValue_eq_ofDigits base digits).symm⟩, below⟩
        · rintro empty
          rw [List.reverse_eq_nil_iff.mp empty, List.forall₂_nil_right_iff] at letters_digits
          exact nonempty (by rw [letters_digits]; rfl)
        · rwa [List.reverse_reverse]
  · rintro ⟨⟨digits, nonempty, letters_digits, rfl⟩, below⟩
    have letters_nonempty : letters.isEmpty = false := by
      cases letters with
      | nil => exact absurd (List.forall₂_nil_left_iff.mp letters_digits) (by simpa using nonempty)
      | cons letter rest => rfl
    have value : numeralValue base digits.reverse = Nat.ofDigits base digits := by
      rw [numeralValue_eq_ofDigits, List.reverse_reverse]
    simp [natural?, letters_nonempty, (mapM_digit?_eq_some_iff small).mpr letters_digits, value,
      below]

theorem isNumeralFor_toDigits {base : Nat} (positional : 1 < base) (number : Nat) :
    IsNumeralFor base (Nat.toDigits base number) number := by
  induction number using Nat.strongRecOn with
  | ind number induction =>
      by_cases single : number < base
      · rw [Nat.toDigits_of_lt_base single]
        exact ⟨[number], by simp, by simp [IsDigitFor, single], by simp⟩
      · have large := Nat.not_lt.mp single
        rw [Nat.toDigits_of_base_le positional large]
        obtain ⟨digits, _, letters_digits, value⟩ := induction (number / base)
          (Nat.div_lt_self (by omega) positional)
        refine ⟨number % base :: digits, by simp, ?_, ?_⟩
        · rw [List.reverse_cons]
          refine List.rel_append letters_digits (.cons ⟨Nat.mod_lt _ (by omega), .inl rfl⟩ .nil)
        · rw [Nat.ofDigits_cons, value, Nat.mod_add_div]

/-- A numeral can be written in capital letters. -/
theorem IsNumeralFor.map_toUpper {base number : Nat} {letters : List Char} (small : base ≤ 16)
    (numeral : IsNumeralFor base letters number) :
    IsNumeralFor base (letters.map Char.toUpper) number := by
  have table : ∀ digit < 16, digit.digitChar.toUpper.toUpper = digit.digitChar.toUpper := by decide
  obtain ⟨digits, nonempty, letters_digits, value⟩ := numeral
  refine ⟨digits, nonempty, List.forall₂_map_left_iff.mpr (letters_digits.imp ?_), value⟩
  rintro letter digit ⟨below, rfl | rfl⟩
  · exact ⟨below, .inr rfl⟩
  · exact ⟨below, .inr (table digit (below.trans_le small))⟩

/-- Zeros before a numeral do not change its number. -/
theorem IsNumeralFor.zeros_append {base number : Nat} {letters : List Char} (positive : 0 < base)
    (numeral : IsNumeralFor base letters number) (zeros : Nat) :
    IsNumeralFor base (List.replicate zeros '0' ++ letters) number := by
  obtain ⟨digits, nonempty, letters_digits, value⟩ := numeral
  have padding : List.Forall₂ (IsDigitFor base) (List.replicate zeros '0')
      (List.replicate zeros 0) := by
    induction zeros with
    | zero => exact .nil
    | succ zeros induction => exact .cons ⟨positive, .inl rfl⟩ induction
  refine ⟨digits ++ List.replicate zeros 0, by simp [nonempty], ?_, ?_⟩
  · rw [List.reverse_append, List.reverse_replicate]
    exact List.rel_append padding letters_digits
  · rw [Nat.ofDigits_append_replicate_zero, value]

theorem IsNumeralFor.exists_digit {base number : Nat} {letters : List Char} {letter : Char}
    (numeral : IsNumeralFor base letters number) (inside : letter ∈ letters) :
    ∃ digit, IsDigitFor base letter digit := by
  obtain ⟨digits, _, letters_digits, _⟩ := numeral
  obtain ⟨digit, _, shown⟩ := Outcome.exists_of_mem_of_forall₂ letters_digits.flip inside
  exact ⟨digit, shown⟩

theorem IsNumeralFor.notMem {base number : Nat} {letters : List Char} {letter : Char}
    (small : base ≤ 16) (numeral : IsNumeralFor base letters number)
    (other : digit? base letter = none) : letter ∉ letters := by
  intro inside
  obtain ⟨digit, shown⟩ := numeral.exists_digit inside
  cases other.symm.trans ((digit?_eq_some_iff small).mpr shown)

theorem IsNumeralFor.solid {base number : Nat} {letters : List Char} (small : base ≤ 16)
    (numeral : IsNumeralFor base letters number) : Solid letters := by
  have table : ∀ digit < 16, isBlank digit.digitChar = false ∧
      isBlank digit.digitChar.toUpper = false := by decide
  intro letter inside
  obtain ⟨digit, below, rfl | rfl⟩ := numeral.exists_digit inside
  · exact (table digit (below.trans_le small)).1
  · exact (table digit (below.trans_le small)).2

end Text

namespace Integer

open Text

/-! ## Notations -/

/-- Whether a sign may stand before a numeral: there is none, or a plus. -/
def IsSign (sign : List Char) : Prop := sign = [] ∨ sign = ['+']

/-- Whether letters denote a number, in one of two notations. -/
inductive Denotes : List Char → Nat → Prop
  /-- A decimal numeral. -/
  | decimal {sign digits : List Char} {number : Nat} (signed : IsSign sign)
    (numeral : IsNumeralFor 10 digits number) : Denotes (sign ++ digits) number
  /-- A hexadecimal numeral after its mark. -/
  | hexadecimal {mark : Char} {sign digits : List Char} {number : Nat}
    (marked : mark = 'x' ∨ mark = 'X') (signed : IsSign sign)
    (numeral : IsNumeralFor 16 digits number) : Denotes ('0' :: mark :: (sign ++ digits)) number

/-- The usual ways of writing a number: in decimal, and in hexadecimal with capital or small
letters. -/
def forms (number : Nat) : List String :=
  [decimal number, "0x" ++ hexadecimal number, "0x" ++ hexadecimalSmall number]

/-- The usual ways of writing a number with zeros before its digits, and with either mark of
hexadecimal digits. -/
def paddedForms (zeros number : Nat) : List String :=
  let padding := String.ofList (List.replicate zeros '0')
  [padding ++ decimal number,
    "0x" ++ padding ++ hexadecimal number, "0x" ++ padding ++ hexadecimalSmall number,
    "0X" ++ padding ++ hexadecimal number, "0X" ++ padding ++ hexadecimalSmall number]

theorem denotes_of_mem_paddedForms {zeros number : Nat} {form : String}
    (padded : form ∈ paddedForms zeros number) : Denotes form.toList number := by
  have unsigned : IsSign [] := .inl rfl
  have decimal_numeral := (isNumeralFor_toDigits (by decide : 1 < 10) number).zeros_append
    (by decide) zeros
  have numeral : IsNumeralFor 16 (Nat.toDigits 16 number) number :=
    isNumeralFor_toDigits (by decide) number
  have small_numeral := numeral.zeros_append (by decide) zeros
  have capital_numeral := (numeral.map_toUpper (by decide)).zeros_append (by decide) zeros
  simp only [paddedForms, List.mem_cons, List.not_mem_nil, or_false] at padded
  rcases padded with rfl | rfl | rfl | rfl | rfl
  · simpa using Denotes.decimal unsigned decimal_numeral
  · simpa [hexadecimal] using Denotes.hexadecimal (.inl rfl) unsigned capital_numeral
  · simpa [hexadecimalSmall] using Denotes.hexadecimal (.inl rfl) unsigned small_numeral
  · simpa [hexadecimal] using Denotes.hexadecimal (.inr rfl) unsigned capital_numeral
  · simpa [hexadecimalSmall] using Denotes.hexadecimal (.inr rfl) unsigned small_numeral

theorem denotes_of_mem_forms {number : Nat} {form : String} (usual : form ∈ forms number) :
    Denotes form.toList number := by
  have padded : form ∈ paddedForms 0 number := by
    simp only [forms, List.mem_cons, List.not_mem_nil, or_false] at usual
    rcases usual with rfl | rfl | rfl <;> simp [paddedForms]
  exact denotes_of_mem_paddedForms padded

theorem exists_sign (letters : List Char) :
    ∃ sign, IsSign sign ∧ letters = sign ++ dropPlus letters := by
  unfold dropPlus
  split
  · exact ⟨['+'], .inr rfl, rfl⟩
  · exact ⟨[], .inl rfl, rfl⟩

theorem dropPlus_append {base number : Nat} {sign digits : List Char} (small : base ≤ 16)
    (signed : IsSign sign) (numeral : IsNumeralFor base digits number)
    (plus : digit? base '+' = none) : dropPlus (sign ++ digits) = digits := by
  rcases signed with rfl | rfl
  · refine dropPlus.eq_2 digits fun rest starts => ?_
    exact numeral.notMem small plus (by simp [starts])
  · rfl

/-- The base of a notation and its digits, without mark and sign. -/
def parts : List Char → Nat × List Char
  | '0' :: 'x' :: rest => (16, dropPlus rest)
  | '0' :: 'X' :: rest => (16, dropPlus rest)
  | numeral => (10, dropPlus numeral)

theorem ofTrimmed?_eq (letters : List Char) :
    ofTrimmed? letters = natural? (parts letters).1 word64 (parts letters).2 := by
  unfold ofTrimmed?
  split
  · rfl
  · rfl
  · rw [parts.eq_3 letters ‹_› ‹_›]

theorem base_parts_le (letters : List Char) : (parts letters).1 ≤ 16 := by
  unfold parts
  split <;> simp

/-- Letters denote the numbers for which their digits are a numeral in their base. -/
theorem denotes_iff {letters : List Char} {number : Nat} :
    Denotes letters number ↔ IsNumeralFor (parts letters).1 (parts letters).2 number := by
  constructor
  · intro denotes
    cases denotes with
    | @decimal sign digits _ signed numeral =>
        -- A decimal numeral is not taken for a hexadecimal one: its second letter is no mark.
        have unmarked : ∀ mark rest, digit? 10 mark = none →
            sign ++ digits ≠ '0' :: mark :: rest := by
          intro mark rest other same
          rcases signed with rfl | rfl
          · obtain rfl : digits = '0' :: mark :: rest := same
            exact numeral.notMem (by decide) other (by simp)
          · simp at same
        rw [parts.eq_3 _ (fun rest => unmarked 'x' rest (by decide))
          (fun rest => unmarked 'X' rest (by decide)),
          dropPlus_append (by decide) signed numeral (by decide)]
        exact numeral
    | hexadecimal marked signed numeral =>
        have digits_eq := dropPlus_append (by decide) signed numeral (by decide)
        rcases marked with rfl | rfl
        · rwa [parts, digits_eq]
        · rwa [parts, digits_eq]
  · unfold parts
    split
    · rename_i rest
      obtain ⟨sign, signed, rest_eq⟩ := exists_sign rest
      intro numeral
      rw [rest_eq]
      exact .hexadecimal (.inl rfl) signed numeral
    · rename_i rest
      obtain ⟨sign, signed, rest_eq⟩ := exists_sign rest
      intro numeral
      rw [rest_eq]
      exact .hexadecimal (.inr rfl) signed numeral
    · obtain ⟨sign, signed, letters_eq⟩ := exists_sign letters
      intro numeral
      rw [letters_eq]
      exact .decimal signed numeral

/-- The trimmed texts that are read are the notations of 64-bit words. -/
theorem ofTrimmed?_eq_some_iff {letters : List Char} {number : Nat} :
    ofTrimmed? letters = some number ↔ Denotes letters number ∧ number < word64 := by
  rw [ofTrimmed?_eq, natural?_iff_isNumeralFor (base_parts_le letters), denotes_iff]

theorem Denotes.solid {letters : List Char} {number : Nat} (denotes : Denotes letters number) :
    Solid letters := by
  have sign_solid : ∀ sign, IsSign sign → Solid sign := by
    rintro sign (rfl | rfl)
    · simp [Solid]
    · intro letter inside
      rw [List.mem_singleton.mp inside]
      decide
  cases denotes with
  | decimal signed numeral =>
      exact List.forall_mem_append.mpr ⟨sign_solid _ signed, numeral.solid (by decide)⟩
  | hexadecimal marked signed numeral =>
      refine List.forall_mem_cons.mpr ⟨by decide, List.forall_mem_cons.mpr ⟨?_, ?_⟩⟩
      · rcases marked with rfl | rfl <;> decide
      · exact List.forall_mem_append.mpr ⟨sign_solid _ signed, numeral.solid (by decide)⟩

/-! ## Fields -/

/-- Whether a text is an integer for a number, with white space around it. -/
def IsInteger (text : List Char) (number : Nat) : Prop :=
  ∃ before letters after, text = before ++ letters ++ after ∧ Blank before ∧ Blank after ∧
    Denotes letters number

theorem isInteger_iff {text : List Char} {number : Nat} :
    IsInteger text number ↔ Denotes (trim text) number := by
  constructor
  · rintro ⟨before, letters, after, rfl, before_blank, after_blank, denotes⟩
    rwa [trim_of_solid before_blank denotes.solid after_blank]
  · intro denotes
    obtain ⟨before, after, text_eq, before_blank, after_blank⟩ := exists_eq_append_trim text
    exact ⟨before, trim text, after, text_eq, before_blank, after_blank, denotes⟩

/-- A field is read exactly if it is an integer for a 64-bit word. -/
theorem parse_ok_iff {field : String} {text : List Char} {number : Nat} :
    parse field text = .ok number ↔ IsInteger text number ∧ number < word64 := by
  rw [isInteger_iff, ← ofTrimmed?_eq_some_iff]
  simp only [parse]
  split <;> simp [*]

/-- A code is read exactly if it is an integer for a 32-bit word. -/
theorem parseCode_ok_iff {field : String} {text : List Char} {number : Nat} :
    parseCode field text = .ok number ↔ IsInteger text number ∧ number < word32 := by
  simp only [parseCode, Outcome.bind_ok, parse_ok_iff]
  constructor
  · rintro ⟨value, ⟨integer, _⟩, checked⟩
    split at checked
    · obtain rfl := Except.ok.inj checked
      exact ⟨integer, ‹_›⟩
    · cases checked
  · rintro ⟨integer, below⟩
    have word : number < word64 := below.trans (by decide)
    exact ⟨number, ⟨integer, word⟩, if_pos below⟩

end Integer

end LaunchReplay
