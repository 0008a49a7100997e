import LaunchReplay.Proofs.Naming.OutputName

/-!
# Which digits of a name are its position

The digits that embed a position in a name are told without the search that finds them. If anywhere
in the name a marker has a digit directly behind it, they are the longest run of digits behind the
leftmost such marker, and else they are the leftmost longest run of digits. The position is the
number that they denote if they are ASCII digits for a 32-bit word; otherwise there is none, whatever
other digits the name holds.
-/

namespace LaunchReplay.Naming

open Text

/-- Whether some digits are the longest run of decimal digits at the start of a text. -/
structure Leads (digits text : List Char) : Prop where
  /-- There is one at least. -/
  nonempty : digits ≠ []
  /-- They are digits, of any script. -/
  decimal : ∀ letter ∈ digits, isDecimalDigit letter = true
  /-- No other digit is directly behind them. -/
  longest : ∃ rest, text = digits ++ rest ∧ ∀ letter ∈ rest.head?, isDecimalDigit letter = false

/-- Whether some digits are the leftmost longest run of digits in a text. -/
def FirstRun (digits text : List Char) : Prop :=
  ∃ before rest, text = before ++ rest ∧ (∀ letter ∈ before, isDecimalDigit letter = false) ∧
    Leads digits rest

/-- Whether a marker with a digit directly behind it comes after the start of a text. -/
def MarkedAfter (before text : List Char) : Prop :=
  ∃ digit rest, text = before ++ positionMarker ++ digit :: rest ∧ isDecimalDigit digit = true

/-- Whether some digits are the longest run behind the leftmost marker with a digit directly behind
it. -/
def MarkedRun (digits text : List Char) : Prop :=
  ∃ before rest, text = before ++ positionMarker ++ rest ∧ Leads digits rest ∧
    ∀ earlier, MarkedAfter earlier text → before.length ≤ earlier.length

/-- Whether some digits of a name embed its position. -/
def PositionRun (digits name : List Char) : Prop :=
  (∃ before, MarkedAfter before name) ∧ MarkedRun digits name ∨
    (¬ ∃ before, MarkedAfter before name) ∧ FirstRun digits name

/-- Whether digits are a numeral of ASCII digits for a 32-bit position. -/
structure IsPositionNumeral (digits : List Char) (position : Nat) : Prop where
  /-- They are ASCII digits. -/
  ascii : ∀ letter ∈ digits, letter.isDigit = true
  /-- They denote the position. -/
  value : Nat.ofDigitChars 10 digits 0 = position
  /-- The position is a 32-bit word. -/
  below : position < 2 ^ 32

variable {digits text : List Char}

/-! ## Runs of digits -/

theorem leads_leadingDigits (found : leadingDigits text ≠ []) :
    Leads (leadingDigits text) text where
  nonempty := found
  decimal := fun _ => List.mem_takeWhile_imp
  longest := by
    refine ⟨text.dropWhile isDecimalDigit, List.takeWhile_append_dropWhile.symm, ?_⟩
    intro letter first
    have stopped := List.head?_dropWhile_not isDecimalDigit text
    rwa [first] at stopped

theorem Leads.leadingDigits_eq (leads : Leads digits text) : leadingDigits text = digits := by
  obtain ⟨rest, rfl, stopped⟩ := leads.longest
  have ended : leadingDigits rest = [] := by
    cases rest with
    | nil => rfl
    | cons letter rest => exact List.takeWhile_cons_of_neg (by simp [stopped letter rfl])
  rw [leadingDigits_append ended]
  exact List.takeWhile_eq_self_iff.mpr leads.decimal

theorem Leads.exists_digit (leads : Leads digits text) :
    ∃ digit rest, text = digit :: rest ∧ isDecimalDigit digit = true := by
  obtain ⟨rest, rfl, _⟩ := leads.longest
  obtain ⟨digit, others, rfl⟩ := List.exists_cons_of_ne_nil leads.nonempty
  exact ⟨digit, others ++ rest, rfl, leads.decimal digit List.mem_cons_self⟩

theorem firstRun_firstDigits (found : firstDigits text ≠ []) : FirstRun (firstDigits text) text := by
  refine ⟨_, _, List.takeWhile_append_dropWhile.symm, ?_, leads_leadingDigits found⟩
  intro letter inside
  simpa using List.mem_takeWhile_imp inside

theorem FirstRun.firstDigits_eq (run : FirstRun digits text) : firstDigits text = digits := by
  obtain ⟨before, rest, rfl, plain, leads⟩ := run
  obtain ⟨digit, others, rest_eq, decimal⟩ := leads.exists_digit
  have reached : rest.dropWhile (fun letter => !isDecimalDigit letter) = rest := by
    rw [rest_eq, List.dropWhile_cons_of_neg (by simp [decimal])]
  have passed : ∀ letter ∈ before, (!isDecimalDigit letter) = true := by
    simpa using plain
  rw [firstDigits, List.dropWhile_append_of_pos passed, reached, leads.leadingDigits_eq]

/-! ## Runs behind markers -/

/-- A marker with a digit at the start of a text is the leftmost one. -/
theorem markedRun_digitsAfterMarker (found : digitsAfterMarker text ≠ []) :
    MarkedRun (digitsAfterMarker text) text := by
  obtain ⟨digit, rest, rfl, decimal⟩ := digitsAfterMarker_ne_nil_iff.mp found
  refine ⟨[], digit :: rest, rfl, ?_, fun _ _ => Nat.zero_le _⟩
  rw [digitsAfterMarker_marker] at found ⊢
  exact leads_leadingDigits found

/-- A letter before a text leaves the leftmost marker where it is, unless one begins at this
letter. -/
theorem MarkedRun.cons {letter : Char} {rest : List Char}
    (quiet : digitsAfterMarker (letter :: rest) = []) (run : MarkedRun digits rest) :
    MarkedRun digits (letter :: rest) := by
  obtain ⟨before, behind, rest_eq, leads, leftmost⟩ := run
  refine ⟨letter :: before, behind, by rw [rest_eq]; rfl, leads, ?_⟩
  rintro earlier ⟨digit, others, split, decimal⟩
  cases earlier with
  | nil => exact absurd quiet (digitsAfterMarker_ne_nil_iff.mpr ⟨digit, others, split, decimal⟩)
  | cons first earlier =>
      have inside : MarkedAfter earlier rest := ⟨digit, others, (List.cons.inj split).2, decimal⟩
      exact Nat.succ_le_succ (leftmost earlier inside)

theorem markedRun_markedDigits (found : markedDigits text ≠ []) :
    MarkedRun (markedDigits text) text := by
  induction text with
  | nil => exact absurd rfl found
  | cons letter rest induction =>
      by_cases quiet : digitsAfterMarker (letter :: rest) = []
      · rw [markedDigits_cons_of_quiet quiet] at found ⊢
        exact (induction found).cons quiet
      · rw [markedDigits_cons_of_digits quiet]
        exact markedRun_digitsAfterMarker quiet

/-- The search passes over all that is before the leftmost marker with a digit. -/
theorem MarkedRun.markedDigits_eq (run : MarkedRun digits text) : markedDigits text = digits := by
  obtain ⟨before, rest, text_eq, leads, leftmost⟩ := run
  have quiet : ∀ front behind, before = front ++ behind → behind ≠ [] →
      digitsAfterMarker (behind ++ (positionMarker ++ rest)) = [] := by
    intro front behind split nonempty
    by_contra found
    obtain ⟨digit, others, marked, decimal⟩ := digitsAfterMarker_ne_nil_iff.mp found
    have earlier : MarkedAfter front text :=
      ⟨digit, others, by rw [text_eq, split]; simp [marked], decimal⟩
    have lengths := leftmost front earlier
    rw [split, List.length_append] at lengths
    have positive := List.length_pos_iff.mpr nonempty
    omega
  have found : leadingDigits rest ≠ [] := by
    rw [leads.leadingDigits_eq]
    exact leads.nonempty
  rw [text_eq, List.append_assoc, markedDigits_append_of_quiet quiet, markedDigits_marker found,
    leads.leadingDigits_eq]

/-! ## The position -/

/-- The digits that the search for the position finds are those that embed it. -/
theorem positionDigits_eq_iff (nonempty : digits ≠ []) :
    positionDigits text = digits ↔ PositionRun digits text := by
  have marked_iff : markedDigits text ≠ [] ↔ ∃ before, MarkedAfter before text :=
    markedDigits_ne_nil_iff
  by_cases quiet : markedDigits text = []
  · have unmarked : ¬ ∃ before, MarkedAfter before text := fun marked => marked_iff.mpr marked quiet
    rw [positionDigits_of_quiet quiet]
    constructor
    · rintro rfl
      exact .inr ⟨unmarked, firstRun_firstDigits nonempty⟩
    · rintro (⟨marked, _⟩ | ⟨_, run⟩)
      · exact absurd marked unmarked
      · exact run.firstDigits_eq
  · rw [positionDigits_of_marked quiet]
    constructor
    · rintro rfl
      exact .inl ⟨marked_iff.mp quiet, markedRun_markedDigits quiet⟩
    · rintro (⟨_, run⟩ | ⟨unmarked, _⟩)
      · exact run.markedDigits_eq
      · exact absurd (marked_iff.mp quiet) unmarked

theorem positionOfDigits?_eq_some_iff {position : Nat} :
    positionOfDigits? digits = some position ↔
      digits ≠ [] ∧ IsPositionNumeral digits position := by
  rw [positionOfDigits?, natural?_eq_some_iff]
  constructor
  · rintro ⟨nonempty, ascii, value, below⟩
    exact ⟨nonempty, ascii, value, below⟩
  · rintro ⟨nonempty, ascii, value, below⟩
    exact ⟨nonempty, ascii, value, below⟩

theorem PositionRun.nonempty (run : PositionRun digits text) : digits ≠ [] := by
  rcases run with ⟨_, _, _, _, leads, _⟩ | ⟨_, _, _, _, _, leads⟩
  · exact leads.nonempty
  · exact leads.nonempty

theorem MarkedRun.positionRun (run : MarkedRun digits text) : PositionRun digits text := by
  have ⟨before, rest, text_eq, leads, _⟩ := run
  obtain ⟨digit, others, rest_eq, decimal⟩ := leads.exists_digit
  exact .inl ⟨⟨before, digit, others, by rw [text_eq, rest_eq], decimal⟩, run⟩

/-- The digits that embed the position of a name decide about it alone. -/
theorem position?_of_run {name : String} {position : Nat} (run : PositionRun digits name.toList) :
    position? name = some position ↔ IsPositionNumeral digits position := by
  have found := (positionDigits_eq_iff run.nonempty).mpr run
  rw [position?, found, positionOfDigits?_eq_some_iff]
  exact and_iff_right run.nonempty

/-- The position of a name is the number that the digits embedding it denote. Behind a marker no
other digits than these count, also where they denote no position. -/
theorem position?_decided_by_run (name : String) :
    (∀ position, position? name = some position ↔
      ∃ digits, PositionRun digits name.toList ∧ IsPositionNumeral digits position) ∧
    ∀ digits, MarkedRun digits name.toList →
      ∀ position, position? name = some position ↔ IsPositionNumeral digits position := by
  refine ⟨fun position => ⟨fun read => ?_, ?_⟩, fun digits run position => ?_⟩
  · obtain ⟨found, numeral⟩ := positionOfDigits?_eq_some_iff.mp read
    exact ⟨_, (positionDigits_eq_iff found).mp rfl, numeral⟩
  · rintro ⟨digits, run, numeral⟩
    exact (position?_of_run run).mpr numeral
  · exact position?_of_run run.positionRun

theorem position?_decided_by_large_run :
    MarkedRun "4294967296".toList "f2_Arg_4294967296_Arg_7.bin".toList ∧
      ∀ position, position? "f2_Arg_4294967296_Arg_7.bin" = some position ↔
        IsPositionNumeral "4294967296".toList position := by
  have digits_eq : markedDigits "f2_Arg_4294967296_Arg_7.bin".toList = "4294967296".toList := by
    decide
  have run : MarkedRun "4294967296".toList "f2_Arg_4294967296_Arg_7.bin".toList := by
    rw [← digits_eq]
    exact markedRun_markedDigits (by decide)
  exact ⟨run, (position?_decided_by_run "f2_Arg_4294967296_Arg_7.bin").2 _ run⟩

end LaunchReplay.Naming
