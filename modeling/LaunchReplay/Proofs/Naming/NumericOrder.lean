import LaunchReplay.Proofs.Capture.Discovery
import LaunchReplay.Proofs.Text.ByteOrder
import LaunchReplay.Proofs.Text.Numeral
import Mathlib.Data.Nat.Digits.Defs
import Mathlib.Order.WithBot

/-!
# Numeric order of file names

Names are in numeric order if they are ordered by the number that their first run of decimal digits
denotes, those without digits first, and then by their bytes. Discovery order is this order for
names whose first run is a numeral of ASCII digits for a 32-bit word. Any other run counts for
nothing, so that its name is ordered as if it had no digits.
-/

namespace LaunchReplay

namespace Text

/-- The number that a decimal digit stands for; in each range the digits of one script, or of
several, go from zero to nine. -/
def decimalDigitValue (letter : Char) : Nat :=
  match decimalDigitRanges.find? fun range => range.1 ≤ letter.toNat ∧ letter.toNat ≤ range.2 with
  | some range => (letter.toNat - range.1) % 10
  | none => 0

/-- The number that a run of decimal digits denotes, however long it is. -/
def runValue (digits : List Char) : Nat :=
  Nat.ofDigits 10 (digits.map decimalDigitValue).reverse

theorem decimalDigitValue_of_isDigit {letter : Char} (digit : letter.isDigit = true) :
    decimalDigitValue letter = letter.toNat - 48 := by
  have range : 48 ≤ letter.toNat ∧ letter.toNat ≤ 57 := by
    simpa [Char.isDigit, UInt32.le_iff_toNat_le] using digit
  have first : decimalDigitRanges.find? (fun range =>
      range.1 ≤ letter.toNat ∧ letter.toNat ≤ range.2) = some (0x30, 0x39) :=
    List.find?_cons_of_pos (by simpa using range)
  rw [decimalDigitValue, first]
  exact Nat.mod_eq_of_lt (by omega)

theorem runValue_of_isDigit {digits : List Char}
    (decimal : ∀ letter ∈ digits, letter.isDigit = true) :
    runValue digits = Nat.ofDigitChars 10 digits 0 := by
  have values : digits.map decimalDigitValue = digits.map fun letter => letter.toNat - 48 :=
    List.map_congr_left fun letter inside => decimalDigitValue_of_isDigit (decimal letter inside)
  rw [runValue, values, Nat.ofDigits_eq_foldr, List.foldr_reverse, List.foldl_map,
    Nat.ofDigitChars_eq_foldl]
  congr 1
  funext sum letter
  exact Nat.add_comm _ _

end Text

namespace Naming

open Text

/-- The number that the first run of decimal digits in a name denotes; a name without digits comes
before all numbers. -/
def firstNumber (name : String) : WithBot Nat :=
  match firstDigits name.toList with
  | [] => ⊥
  | digits => (runValue digits : Nat)

/-- Whether the first run of decimal digits in a name, if there is one, is a numeral of ASCII digits
for a 32-bit word. -/
structure HasReadableNumber (name : String) : Prop where
  /-- Its digits are ASCII digits. -/
  ascii : ∀ letter ∈ firstDigits name.toList, letter.isDigit = true
  /-- It denotes a word. -/
  below : runValue (firstDigits name.toList) < word32

instance (name : String) : Decidable (HasReadableNumber name) :=
  decidable_of_iff ((firstDigits name.toList).all Char.isDigit = true ∧
      runValue (firstDigits name.toList) < word32)
    ⟨fun ⟨ascii, below⟩ => ⟨List.all_eq_true.mp ascii, below⟩,
      fun readable => ⟨List.all_eq_true.mpr readable.ascii, readable.below⟩⟩

/-- The number by which a name is ordered, that of its first run of digits as far as it is read. -/
def readNumber (name : String) : WithBot Nat :=
  if HasReadableNumber name then firstNumber name else ⊥

/-- Whether two names are in the order of some numbers for them, and then of their bytes. -/
def InOrderOf (number : String → WithBot Nat) (left right : String) : Prop :=
  number left < number right ∨
    number left = number right ∧ Bytes.ofText left ≤ Bytes.ofText right

theorem firstNumber_of_nonempty {name : String} (nonempty : firstDigits name.toList ≠ []) :
    firstNumber name = (runValue (firstDigits name.toList) : Nat) := by
  rw [firstNumber]
  split
  · rename_i empty
    exact absurd empty nonempty
  · rfl

theorem readNumber_eq (name : String) :
    readNumber name =
      match positionOfDigits? (firstDigits name.toList) with
      | none => ⊥
      | some number => (number : WithBot Nat) := by
  cases read : positionOfDigits? (firstDigits name.toList) with
  | some number =>
      obtain ⟨nonempty, decimal, value, below⟩ := natural?_eq_some_iff.mp read
      rw [← runValue_of_isDigit decimal] at value
      rw [readNumber, if_pos ⟨decimal, by omega⟩, firstNumber_of_nonempty nonempty, value]
  | none =>
      rw [readNumber]
      split
      · rename_i readable
        by_cases empty : firstDigits name.toList = []
        · rw [firstNumber, empty]
        · -- A readable number would have been read.
          have value := runValue_of_isDigit readable.ascii
          have denotes := natural?_eq_some_iff.mpr
            ⟨empty, readable.ascii, value.symm, readable.below⟩
          rw [positionOfDigits?, denotes] at read
          cases read
      · rfl

/-- Discovery order is the order of the numbers that are read, and then of the bytes. -/
theorem precedes_ofName_iff {left right : String} :
    (DiscoveryKey.ofName left).precedes (.ofName right) = true ↔
      InOrderOf readNumber left right := by
  rw [DiscoveryKey.precedes_iff, InOrderOf, readNumber_eq, readNumber_eq, Bytes.ofText_le_iff]
  simp only [DiscoveryKey.ofName]
  cases positionOfDigits? (firstDigits left.toList) <;>
    cases positionOfDigits? (firstDigits right.toList) <;> simp

theorem InOrderOf.of_readable {left right : String} (ordered : InOrderOf readNumber left right)
    (left_readable : HasReadableNumber left) (right_readable : HasReadableNumber right) :
    InOrderOf firstNumber left right := by
  rwa [InOrderOf, readNumber, readNumber, if_pos left_readable, if_pos right_readable] at ordered

end Naming

end LaunchReplay
