import LaunchReplay.Text.Bytes
import Mathlib.Data.String.Basic
import Mathlib.Tactic.SplitIfs

/-!
# The order of encoded texts

In UTF-8 a larger character has a larger encoding, and no encoding goes on where another ends. So
texts are ordered as their bytes are.
-/

namespace LaunchReplay

open String (utf8EncodeChar)

namespace Text

theorem div_lt_or_mod_lt (base : Nat) {low high : Nat} (below : low < high) :
    low / base < high / base ∨ low / base = high / base ∧ low % base < high % base := by
  rcases Nat.lt_or_eq_of_le (Nat.div_le_div_right (c := base) (Nat.le_of_lt below)) with
    less | same
  · exact .inl less
  · have low_eq := Nat.div_add_mod low base
    have high_eq := Nat.div_add_mod high base
    rw [same] at low_eq
    exact .inr ⟨same, by omega⟩

/-- The encodings of two characters in their order differ before either ends, so what comes behind
them does not matter. -/
theorem utf8EncodeChar_append_lt {left right : Char} (below : left < right) (rest more : Bytes) :
    utf8EncodeChar left ++ rest < utf8EncodeChar right ++ more := by
  have codes : left.val.toNat < right.val.toNat := UInt32.lt_iff_toNat_lt.mp (Char.lt_def.mp below)
  have bound (letter : Char) : letter.val.toNat < 0x110000 := by
    rcases letter.valid with small | ⟨_, small⟩
    · exact Nat.lt_trans small (by decide)
    · exact small
  have left_bound := bound left
  have right_bound := bound right
  unfold utf8EncodeChar
  generalize left.val.toNat = low at codes left_bound
  generalize right.val.toNat = high at codes right_bound
  have last := div_lt_or_mod_lt 64 codes
  have third := @div_lt_or_mod_lt 64 (low / 64) (high / 64)
  have second := @div_lt_or_mod_lt 64 (low / 64 / 64) (high / 64 / 64)
  rw [Nat.div_div_eq_div_mul, Nat.div_div_eq_div_mul] at third
  rw [Nat.div_div_eq_div_mul, Nat.div_div_eq_div_mul] at second
  dsimp only
  -- One case for each pair of lengths; where they are equal the bytes are compared in turn.
  split_ifs <;>
    simp (disch := omega) only [List.cons_append, List.nil_append, List.cons_lt_cons_iff,
      UInt8.lt_iff_toNat_lt, ← UInt8.toNat_inj, UInt8.toNat_ofNat', Nat.mod_eq_of_lt] <;>
    omega

theorem flatMap_utf8EncodeChar_lt {left right : List Char} (below : left < right) :
    left.flatMap utf8EncodeChar < right.flatMap utf8EncodeChar := by
  induction left generalizing right with
  | nil =>
      cases right with
      | nil => exact absurd below (List.lt_irrefl [])
      | cons letter rest =>
          obtain ⟨byte, bytes, encoded⟩ :=
            List.exists_cons_of_ne_nil (String.utf8EncodeChar_ne_nil (c := letter))
          rw [List.flatMap_cons, encoded]
          exact List.nil_lt_cons byte _
  | cons letter rest induction =>
      cases right with
      | nil => exact absurd below (List.not_lt_nil _)
      | cons other more =>
          rw [List.flatMap_cons, List.flatMap_cons]
          rcases List.cons_lt_cons_iff.mp below with first | ⟨rfl, later⟩
          · exact utf8EncodeChar_append_lt first _ _
          · exact List.append_left_lt (induction later)

end Text

namespace Bytes

theorem ofText_eq_flatMap (text : String) : ofText text = text.toList.flatMap utf8EncodeChar := by
  rw [ofText, ← String.utf8Encode_toList, List.utf8Encode, List.toList_data_toByteArray]

theorem ofText_lt {left right : String} (below : left < right) : ofText left < ofText right := by
  rw [ofText_eq_flatMap, ofText_eq_flatMap]
  exact Text.flatMap_utf8EncodeChar_lt (String.lt_iff_toList_lt.mp below)

/-- Texts are ordered by their bytes. -/
theorem ofText_le_iff {left right : String} : ofText left ≤ ofText right ↔ left ≤ right := by
  rw [← List.not_lt, ← String.not_lt, not_iff_not]
  refine ⟨fun bytes_below => ?_, ofText_lt⟩
  by_contra not_below
  have above : left ≤ right := String.not_lt.mp not_below
  rcases lt_or_eq_of_le above with less | rfl
  · exact List.lt_asymm bytes_below (ofText_lt less)
  · exact List.lt_irrefl _ bytes_below

end Bytes

end LaunchReplay
