import LaunchReplay.Json.Reader

/-!
# Escapes are read back

A text that is written with escapes ends at the first bare quote after it, and the escapes stand for
the characters of the text.
-/

namespace LaunchReplay.Json

open Text

/-! ## Control characters -/

theorem isHexDigit_digitChar {digit : Nat} (below : digit < 16) :
    isHexDigit (Nat.digitChar digit) = true := by
  revert digit
  decide

/-- The two digits of a control character denote its code. -/
theorem codeUnit?_digitChar {code : Nat} (control : code < 32) :
    codeUnit? '0' '0' (Nat.digitChar (code / 16)) (Nat.digitChar (code % 16)) = some code := by
  revert code
  decide

/-- How each character is written: with a short escape, as a code unit, or as it is. -/
theorem escapeCharacter_cases (letter : Char) :
    (∃ short, shortEscapes.lookup short = some letter ∧ short ≠ 'u' ∧
      escapeCharacter letter = ['\\', short]) ∨
    (letter.toNat < 32 ∧ escapeCharacter letter =
      ['\\', 'u', '0', '0', Nat.digitChar (letter.toNat / 16), Nat.digitChar (letter.toNat % 16)]) ∨
    (32 ≤ letter.toNat ∧ letter ≠ '"' ∧ letter ≠ '\\' ∧ escapeCharacter letter = [letter]) := by
  unfold escapeCharacter
  split
  case h_8 not_quote not_backslash _ _ _ _ _ =>
    by_cases control : letter.toNat < 32
    · exact .inr (.inl ⟨control, if_pos control⟩)
    · exact .inr (.inr ⟨Nat.not_lt.mp control, not_quote, not_backslash, if_neg control⟩)
  all_goals exact .inl ⟨_, by decide, by decide, rfl⟩

/-! ## Reading up to the quote -/

/-- A written character is taken as a whole. -/
theorem readString_escapeCharacter (done : List Char) (letter : Char) (rest : List Char) :
    readString done (escapeCharacter letter ++ rest) =
      readString ((escapeCharacter letter).reverse ++ done) rest := by
  obtain ⟨short, stands, not_unit, written⟩ | ⟨control, written⟩ |
    ⟨printable, not_quote, not_backslash, written⟩ := escapeCharacter_cases letter
  · have is_short : isShortEscape short = true := by rw [isShortEscape, stands]; rfl
    rw [written]
    simp [readString, not_unit, is_short]
  · have zero : isHexDigit '0' = true := rfl
    have high : isHexDigit (Nat.digitChar (letter.toNat / 16)) = true :=
      isHexDigit_digitChar (by omega)
    have low : isHexDigit (Nat.digitChar (letter.toNat % 16)) = true :=
      isHexDigit_digitChar (by omega)
    rw [written]
    simp [readString, zero, high, low]
  · rw [written]
    simp [readString, not_backslash, Nat.not_lt.mpr printable]

theorem readString_escape (done text rest : List Char) :
    readString done (escape text ++ '"' :: rest) = some (done.reverse ++ escape text, rest) := by
  induction text generalizing done with
  | nil => simp [escape, readString]
  | cons letter text induction =>
      rw [escape, List.flatMap_cons, ← escape, List.append_assoc, readString_escapeCharacter,
        induction]
      simp

/-! ## Undoing escapes -/

/-- A written character stands for itself. -/
theorem unescapeAfter_escapeCharacter (done : List Char) (letter : Char) (rest : List Char) :
    unescapeAfter done (escapeCharacter letter ++ rest) = unescapeAfter (letter :: done) rest := by
  obtain ⟨short, stands, not_unit, written⟩ | ⟨control, written⟩ |
    ⟨_, _, not_backslash, written⟩ := escapeCharacter_cases letter
  · rw [written]
    simp [unescapeAfter, not_unit, stands]
  · have code := codeUnit?_digitChar control
    have trailing : isTrailing letter.toNat = false := by simp [isTrailing]; omega
    have leading : isLeading letter.toNat = false := by simp [isLeading]; omega
    rw [written]
    simp [unescapeAfter, code, trailing, leading]
  · rw [written]
    simp [unescapeAfter, not_backslash]

theorem unescapeAfter_escape (done text : List Char) :
    unescapeAfter done (escape text) = some (done.reverse ++ text) := by
  induction text generalizing done with
  | nil => simp [escape, unescapeAfter]
  | cons letter text induction =>
      rw [escape, List.flatMap_cons, ← escape, unescapeAfter_escapeCharacter, induction]
      simp

@[simp]
theorem unescape?_escape (text : List Char) : unescape? (escape text) = some text :=
  unescapeAfter_escape [] text

@[simp]
theorem text?_text (string : String) : (text string).text? = some string := by
  simp [text, text?]

end LaunchReplay.Json
