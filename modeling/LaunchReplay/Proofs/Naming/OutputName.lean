import LaunchReplay.Naming.Pattern
import LaunchReplay.Naming.Position
import LaunchReplay.Proofs.FileTree.Path
import LaunchReplay.Proofs.Text.Numeral
import Mathlib.Data.List.TakeWhile
import Mathlib.Tactic.IntervalCases

/-!
# Positions in the names of outputs

The name of an output carries its position after the last marker. That is the position which is
read from it, unless the kernel name holds a marker with a digit of its own.
-/

namespace LaunchReplay

open Text

namespace Naming

/-- The name of the file with the captured content of an output after the launch. -/
def postName (enqueue : Enqueue) (kernel : String) (position : Nat) (kind : OutputKind) : String :=
  enqueue.fileStart ++ "Kernel_" ++ kernel ++ "_Arg_" ++ decimal position ++ kind.extension

/-- Whether the name of a kernel, after the underscore that stands before it in file names, holds a
marker with a digit directly after it. -/
def EmbedsPosition (kernel : String) : Prop :=
  ∃ before digit after, '_' :: kernel.toList = before ++ positionMarker ++ digit :: after ∧
    isDecimalDigit digit = true

/-! ## Digits after markers -/

theorem positionMarker_eq : positionMarker = ['_', 'A', 'r', 'g', '_'] := rfl

theorem markedDigits_cons_of_quiet {letter : Char} {rest : List Char}
    (quiet : digitsAfterMarker (letter :: rest) = []) :
    markedDigits (letter :: rest) = markedDigits rest := by
  rw [markedDigits, quiet]

theorem markedDigits_cons_of_digits {letter : Char} {rest : List Char}
    (digits : digitsAfterMarker (letter :: rest) ≠ []) :
    markedDigits (letter :: rest) = digitsAfterMarker (letter :: rest) := by
  rw [markedDigits]
  split
  · rename_i quiet
    exact absurd quiet digits
  · rfl

theorem markedDigits_append_of_quiet {front text : List Char}
    (quiet : ∀ before after, front = before ++ after → after ≠ [] →
      digitsAfterMarker (after ++ text) = []) :
    markedDigits (front ++ text) = markedDigits text := by
  induction front with
  | nil => rfl
  | cons letter rest induction =>
      have here : digitsAfterMarker (letter :: (rest ++ text)) = [] :=
        quiet [] (letter :: rest) rfl (by simp)
      rw [List.cons_append, markedDigits_cons_of_quiet here]
      apply induction
      intro before after split
      exact quiet (letter :: before) after (by rw [split]; rfl)

theorem markedDigits_append_of_notMem {front text : List Char} (absent : '_' ∉ front) :
    markedDigits (front ++ text) = markedDigits text := by
  apply markedDigits_append_of_quiet
  intro before after split nonempty
  obtain ⟨letter, rest, rfl⟩ := List.exists_cons_of_ne_nil nonempty
  have other : '_' ≠ letter := by
    rintro rfl
    exact absent (by simp [split])
  simp [digitsAfterMarker, positionMarker_eq, other]

theorem markedDigits_underscore {letter : Char} {rest : List Char} (other : 'A' ≠ letter) :
    markedDigits ('_' :: letter :: rest) = markedDigits (letter :: rest) :=
  markedDigits_cons_of_quiet (by simp [digitsAfterMarker, positionMarker_eq, other])

/-- What starts with no digit adds none to the digits at the start of a text before it. -/
theorem leadingDigits_append {front text : List Char} (ended : leadingDigits text = []) :
    leadingDigits (front ++ text) = leadingDigits front := by
  induction front with
  | nil => exact ended
  | cons letter rest induction =>
      rw [leadingDigits] at induction
      rw [List.cons_append, leadingDigits, leadingDigits, List.takeWhile_cons, List.takeWhile_cons,
        induction]
      rfl

/-- A marker behind a text does not change which digits follow a marker at its start. -/
theorem digitsAfterMarker_append_marker {front text : List Char} (nonempty : front ≠ []) :
    digitsAfterMarker (front ++ (positionMarker ++ text)) = digitsAfterMarker front := by
  have marker_length : positionMarker.length = 5 := rfl
  have positive := List.length_pos_iff.mpr nonempty
  rw [digitsAfterMarker, digitsAfterMarker]
  rcases Nat.lt_or_ge front.length 5 with short | long
  · have unmarked : ¬ positionMarker.isPrefixOf front = true := fun marked => by
      have lengths := (List.isPrefixOf_iff_prefix.mp marked).length_le
      omega
    rw [if_neg unmarked]
    split
    · -- The letter after the marker is one of the marker behind the text.
      rw [marker_length, List.drop_append, List.drop_of_length_le (by omega), List.nil_append]
      have gap_small : 5 - front.length < 5 := by omega
      generalize 5 - front.length = gap at gap_small
      interval_cases gap <;> rfl
    · rfl
  · have marked_iff : positionMarker.isPrefixOf (front ++ (positionMarker ++ text)) =
        positionMarker.isPrefixOf front := by
      rw [Bool.eq_iff_iff, List.isPrefixOf_iff_prefix, List.isPrefixOf_iff_prefix]
      exact ⟨fun marked =>
        List.prefix_of_prefix_length_le marked (List.prefix_append _ _) (by omega),
        fun marked => marked.trans (List.prefix_append _ _)⟩
    rw [marked_iff, marker_length, List.drop_append_of_le_length long, leadingDigits_append rfl]

/-- A marker behind a text is searched only where no marker in the text has a digit. -/
theorem markedDigits_append_marker (front text : List Char) :
    markedDigits (front ++ (positionMarker ++ text)) =
      match markedDigits front with
      | [] => markedDigits (positionMarker ++ text)
      | digits => digits := by
  induction front with
  | nil => rfl
  | cons letter rest induction =>
      have here : digitsAfterMarker (letter :: (rest ++ (positionMarker ++ text))) =
          digitsAfterMarker (letter :: rest) :=
        digitsAfterMarker_append_marker (List.cons_ne_nil _ _)
      rw [List.cons_append, markedDigits, markedDigits, here]
      cases digitsAfterMarker (letter :: rest) with
      | nil => exact induction
      | cons => rfl

theorem digitsAfterMarker_ne_nil_iff {text : List Char} :
    digitsAfterMarker text ≠ [] ↔
      ∃ digit after, text = positionMarker ++ digit :: after ∧ isDecimalDigit digit = true := by
  rw [digitsAfterMarker]
  constructor
  · split
    · rename_i marked
      obtain ⟨behind, rfl⟩ := List.isPrefixOf_iff_prefix.mp marked
      rw [List.drop_left]
      intro found
      cases behind with
      | nil => exact absurd rfl found
      | cons digit after =>
          refine ⟨digit, after, rfl, ?_⟩
          by_contra plain
          exact found (by simp [leadingDigits, plain])
    · exact fun found => absurd rfl found
  · rintro ⟨digit, after, rfl, decimal⟩
    rw [if_pos (List.isPrefixOf_iff_prefix.mpr (List.prefix_append _ _)), List.drop_left]
    simp [leadingDigits, decimal]

theorem markedDigits_ne_nil_iff {text : List Char} :
    markedDigits text ≠ [] ↔
      ∃ before digit after, text = before ++ positionMarker ++ digit :: after ∧
        isDecimalDigit digit = true := by
  induction text with
  | nil =>
      constructor
      · exact fun found => absurd rfl found
      · rintro ⟨before, _, _, split, _⟩
        simp at split
  | cons letter rest induction =>
      constructor
      · intro found
        by_cases quiet : digitsAfterMarker (letter :: rest) = []
        · rw [markedDigits_cons_of_quiet quiet] at found
          obtain ⟨before, digit, after, split, decimal⟩ := induction.mp found
          exact ⟨letter :: before, digit, after, congrArg (letter :: ·) split, decimal⟩
        · obtain ⟨digit, after, split, decimal⟩ := digitsAfterMarker_ne_nil_iff.mp quiet
          exact ⟨[], digit, after, split, decimal⟩
      · rintro ⟨before, digit, after, split, decimal⟩
        by_cases quiet : digitsAfterMarker (letter :: rest) = []
        · cases before with
          | nil =>
              exact absurd quiet
                (digitsAfterMarker_ne_nil_iff.mpr ⟨digit, after, split, decimal⟩)
          | cons first before =>
              rw [markedDigits_cons_of_quiet quiet]
              exact induction.mpr ⟨before, digit, after, (List.cons.inj split).2, decimal⟩
        · rw [markedDigits_cons_of_digits quiet]
          exact quiet

theorem digitsAfterMarker_marker (text : List Char) :
    digitsAfterMarker (positionMarker ++ text) = leadingDigits text := by
  rw [digitsAfterMarker, if_pos (List.isPrefixOf_iff_prefix.mpr (List.prefix_append _ _)),
    List.drop_left]

/-- A marker with digits directly behind it hides all markers behind it. -/
theorem markedDigits_marker {text : List Char} (found : leadingDigits text ≠ []) :
    markedDigits (positionMarker ++ text) = leadingDigits text := by
  rw [← digitsAfterMarker_marker] at found ⊢
  exact markedDigits_cons_of_digits found

theorem positionDigits_of_marked {name : List Char} (found : markedDigits name ≠ []) :
    positionDigits name = markedDigits name := by
  rw [positionDigits]
  split
  · rename_i quiet
    exact absurd quiet found
  · rfl

theorem positionDigits_of_quiet {name : List Char} (quiet : markedDigits name = []) :
    positionDigits name = firstDigits name := by
  rw [positionDigits, quiet]

/-! ## Names of outputs -/

/-- The digits after the first marker that has any in the name of a kernel, with the underscore that
stands before it in file names. -/
def embeddedDigits (kernel : String) : List Char :=
  markedDigits ('_' :: kernel.toList)

theorem embedsPosition_iff {kernel : String} : EmbedsPosition kernel ↔ embeddedDigits kernel ≠ [] :=
  markedDigits_ne_nil_iff.symm

theorem embeddedDigits_of_silent {kernel : String} (silent : ¬ EmbedsPosition kernel) :
    embeddedDigits kernel = [] :=
  not_not.mp (mt embedsPosition_iff.mpr silent)

/-- The counter at the start of a file name is behind no marker, so the digits are those after the
first marker behind it, which its last underscore may begin. -/
theorem markedDigits_fileStart (enqueue : Enqueue) (rest : List Char) :
    markedDigits (enqueue.fileStart.toList ++ rest) = markedDigits ('_' :: rest) := by
  have padded_absent : '_' ∉ enqueue.padded.toList := fun inside =>
    absurd (isDigit_of_mem_decimalPadded inside) (by decide)
  obtain ⟨first, others, padded_eq⟩ :=
    List.exists_cons_of_ne_nil (decimalPadded_ne_nil 4 enqueue.index)
  have first_digit : first.isDigit = true :=
    isDigit_of_mem_decimalPadded (padded_eq ▸ List.mem_cons_self)
  calc markedDigits (enqueue.fileStart.toList ++ rest)
      = markedDigits ("Enqueue".toList ++ ('_' :: (enqueue.padded.toList ++ '_' :: rest))) := by
        simp [Enqueue.fileStart]
    _ = markedDigits ('_' :: (enqueue.padded.toList ++ '_' :: rest)) :=
        markedDigits_append_of_notMem (by decide)
    _ = markedDigits (enqueue.padded.toList ++ '_' :: rest) := by
        rw [show enqueue.padded.toList = first :: others from padded_eq, List.cons_append]
        apply markedDigits_underscore
        rintro rfl
        cases first_digit
    _ = markedDigits ('_' :: rest) := markedDigits_append_of_notMem padded_absent

/-- A name whose position comes after the enqueue and the kernel gives that position back, unless
the kernel embeds one. -/
theorem position?_of_stem (enqueue : Enqueue) (kernel : String) {name : String} {position : Nat}
    {ending : List Char} (below : position < word32) (ended : leadingDigits ending = [])
    (shape : name.toList =
      enqueue.fileStart.toList ++ ("Kernel".toList ++
        (('_' :: kernel.toList) ++ (positionMarker ++ (Nat.toDigits 10 position ++ ending))))) :
    position? name =
      match embeddedDigits kernel with
      | [] => some position
      | digits => positionOfDigits? digits := by
  have digits (letter : Char) (inside : letter ∈ Nat.toDigits 10 position) :
      isDecimalDigit letter = true :=
    isDecimalDigit_of_isDigit (isDigit_of_mem_toDigits inside)
  have leading : leadingDigits (Nat.toDigits 10 position ++ ending) = Nat.toDigits 10 position := by
    rw [leadingDigits_append ended]
    exact List.takeWhile_eq_self_iff.mpr digits
  have found : leadingDigits (Nat.toDigits 10 position ++ ending) ≠ [] := by
    rw [leading]
    exact Nat.toDigits_ne_nil
  have marked : markedDigits name.toList =
      match embeddedDigits kernel with
      | [] => Nat.toDigits 10 position
      | embedded => embedded := by
    calc markedDigits name.toList
        = markedDigits ('_' :: ("Kernel".toList ++ _)) := by
          rw [shape, markedDigits_fileStart]
      _ = markedDigits ("Kernel".toList ++ _) := markedDigits_underscore (by decide)
      _ = markedDigits (('_' :: kernel.toList) ++ (positionMarker ++ _)) := by
          rw [markedDigits_append_of_notMem (by decide)]
      _ = _ := by
          rw [markedDigits_append_marker, markedDigits_marker found, leading, embeddedDigits]
  have own : positionOfDigits? (Nat.toDigits 10 position) = some position := natural?_toDigits below
  rw [position?, positionDigits, marked]
  cases embeddedDigits kernel with
  | cons => rfl
  | nil =>
      obtain ⟨digit, rest, written⟩ :=
        List.exists_cons_of_ne_nil (Nat.toDigits_ne_nil (b := 10) (n := position))
      rw [written] at own ⊢
      exact own

theorem toList_outputName (enqueue : Enqueue) (kernel : String) (position : Nat)
    (kind : OutputKind) :
    (outputName enqueue kernel position kind).toList =
      (FilePattern.test enqueue kind).start.toList ++
        (kernel.toList ++ (positionMarker ++ Nat.toDigits 10 position)) ++
          (FilePattern.test enqueue kind).ending.toList := by
  simp [outputName, FilePattern.test, positionMarker_eq]

/-- The name of an output gives its position back, unless the kernel embeds one. -/
theorem position?_outputName_eq {enqueue : Enqueue} {kernel : String} {position : Nat}
    (kind : OutputKind) (below : position < word32) :
    position? (outputName enqueue kernel position kind) =
      match embeddedDigits kernel with
      | [] => some position
      | digits => positionOfDigits? digits := by
  have ended : leadingDigits ("_" ++ kind.label ++ kind.extension).toList = [] := by
    cases kind <;> rfl
  refine position?_of_stem enqueue kernel below ended ?_
  simp [outputName, Enqueue.fileStart, positionMarker_eq]

theorem position?_outputName {enqueue : Enqueue} {kernel : String} {position : Nat}
    (kind : OutputKind) (silent : ¬ EmbedsPosition kernel) (below : position < word32) :
    position? (outputName enqueue kernel position kind) = some position := by
  rw [position?_outputName_eq kind below, embeddedDigits_of_silent silent]

/-- From the name of an output, the position that it was made for is read if the kernel embeds no
position; if the kernel embeds one, that is read, whatever the output is. -/
theorem read_from_outputName (enqueue : Enqueue) (kernel : String) (position : Nat)
    (kind : OutputKind) (below : position < word32) :
    (¬ EmbedsPosition kernel →
        position? (outputName enqueue kernel position kind) = some position) ∧
      (EmbedsPosition kernel →
        position? (outputName enqueue kernel position kind) =
          positionOfDigits? (embeddedDigits kernel)) := by
  refine ⟨fun silent => position?_outputName kind silent below, fun embeds => ?_⟩
  rw [position?_outputName_eq kind below]
  split
  · rename_i quiet
    exact absurd quiet (embedsPosition_iff.mp embeds)
  · rfl

theorem embedsPosition_marked : EmbedsPosition "x_Arg_5" :=
  ⟨"_x".toList, '5', [], by decide, by decide⟩

theorem read_from_outputName_marked :
    3 < word32 ∧ EmbedsPosition "x_Arg_5" ∧
      position? (outputName ⟨1⟩ "x_Arg_5" 3 .buffer) =
        positionOfDigits? (embeddedDigits "x_Arg_5") :=
  ⟨by decide, embedsPosition_marked,
    (read_from_outputName ⟨1⟩ "x_Arg_5" 3 .buffer (by decide)).2 embedsPosition_marked⟩

/-- The name of an output of position 3 from which position 5 is read. -/
theorem position_lost_in_outputName :
    outputName ⟨1⟩ "x_Arg_5" 3 .buffer = "Enqueue_0001_Kernel_x_Arg_5_Arg_3_Buffer.bin" ∧
      position? (outputName ⟨1⟩ "x_Arg_5" 3 .buffer) = some 5 ∧
      position? (outputName ⟨1⟩ "x_Arg_5" 3 .buffer) ≠ some 3 := by
  decide

theorem position?_postName {enqueue : Enqueue} {kernel : String} {position : Nat}
    (kind : OutputKind) (silent : ¬ EmbedsPosition kernel) (below : position < word32) :
    position? (postName enqueue kernel position kind) = some position := by
  have ended : leadingDigits kind.extension.toList = [] := by
    cases kind <;> rfl
  refine (position?_of_stem enqueue kernel below ended ?_).trans ?_
  · simp [postName, Enqueue.fileStart, positionMarker_eq]
  · rw [embeddedDigits_of_silent silent]

theorem slash_notMem_toDigits (number : Nat) : '/' ∉ Nat.toDigits 10 number :=
  fun inside => absurd (isDigit_of_mem_toDigits inside) (by decide)

theorem slash_notMem_padded (enqueue : Enqueue) : '/' ∉ enqueue.padded.toList :=
  fun inside => absurd (isDigit_of_mem_decimalPadded inside) (by decide)

/-- A name with a position after the enqueue and the kernel is the name of a file, unless a slash is
in the kernel or after the position. -/
theorem isName_of_stem (enqueue : Enqueue) (position : Nat) {kernel name : String}
    {ending : List Char} (plain : '/' ∉ kernel.toList) (ended : '/' ∉ ending)
    (shape : name.toList =
      enqueue.fileStart.toList ++ ("Kernel".toList ++
        (('_' :: kernel.toList) ++ (positionMarker ++ (Nat.toDigits 10 position ++ ending))))) :
    Path.IsName name where
  nonempty := by simp [shape, Enqueue.fileStart]
  plain := by
    have index := slash_notMem_padded enqueue
    have digits := slash_notMem_toDigits position
    simp [shape, Enqueue.fileStart, positionMarker_eq, index, plain, digits, ended]
  not_here := by simp [shape, Enqueue.fileStart]
  not_up := by simp [shape, Enqueue.fileStart]

variable {enqueue : Enqueue} {kernel : String} {position : Nat} {kind : OutputKind}

theorem isName_outputName (plain : '/' ∉ kernel.toList) :
    Path.IsName (outputName enqueue kernel position kind) := by
  have ended : '/' ∉ ("_" ++ kind.label ++ kind.extension).toList := by
    cases kind <;> decide
  refine isName_of_stem enqueue position plain ended ?_
  simp [outputName, Enqueue.fileStart, positionMarker_eq]

theorem isName_postName (plain : '/' ∉ kernel.toList) :
    Path.IsName (postName enqueue kernel position kind) := by
  have ended : '/' ∉ kind.extension.toList := by
    cases kind <;> decide
  refine isName_of_stem enqueue position plain ended ?_
  simp [postName, Enqueue.fileStart, positionMarker_eq]

end Naming

namespace FilePattern

theorem middle?_append {pattern : FilePattern} {name middle : List Char}
    (shape : name = pattern.start.toList ++ middle ++ pattern.ending.toList) :
    pattern.middle? name = some middle := by
  have starting : pattern.start.toList <+: name := by
    rw [shape, List.append_assoc]
    exact List.prefix_append _ _
  have ending : pattern.ending.toList <:+ name := shape ▸ List.suffix_append _ _
  have length_eq : name.length =
      pattern.start.toList.length + middle.length + pattern.ending.toList.length := by
    rw [shape, List.length_append, List.length_append]
  rw [middle?, if_pos ⟨by omega, List.isPrefixOf_iff_prefix.mpr starting,
    List.isSuffixOf_iff_suffix.mpr ending⟩]
  have middle_length : name.length - pattern.start.toList.length - pattern.ending.toList.length =
      middle.length := by omega
  rw [middle_length, shape, List.append_assoc, List.drop_left, List.take_left]

/-- What is found between the start and the ending of a name is all of the name between them. -/
theorem middle?_eq_some_iff {pattern : FilePattern} {name middle : List Char} :
    pattern.middle? name = some middle ↔
      name = pattern.start.toList ++ middle ++ pattern.ending.toList := by
  refine ⟨fun found => ?_, middle?_append⟩
  have shape := found
  rw [middle?] at shape
  obtain ⟨⟨lengths, starting, finishing⟩, _⟩ := Option.ite_none_right_eq_some.mp shape
  obtain ⟨behind, rfl⟩ := List.isPrefixOf_iff_prefix.mp starting
  rw [List.length_append] at lengths
  obtain ⟨between, rfl⟩ := List.suffix_of_suffix_length_le
    (List.isSuffixOf_iff_suffix.mp finishing) (List.suffix_append _ behind) (by omega)
  rw [← List.append_assoc] at found ⊢
  rw [Option.some_inj.mp ((middle?_append rfl).symm.trans found)]

/-- A name that fits goes from the start to the ending without an overlap. -/
theorem exists_middle_of_fits {pattern : FilePattern} {name : String}
    (fitting : pattern.fits name = true) :
    ∃ middle, name.toList = pattern.start.toList ++ middle ++ pattern.ending.toList := by
  rw [fits] at fitting
  cases found : pattern.middle? name.toList with
  | none =>
      rw [found] at fitting
      cases fitting
  | some middle => exact ⟨middle, middle?_eq_some_iff.mp found⟩

theorem exists_text_of_fits {pattern : FilePattern} {name : String}
    (fitting : pattern.fits name = true) :
    ∃ middle, name = pattern.start ++ middle ++ pattern.ending := by
  obtain ⟨middle, shape⟩ := exists_middle_of_fits fitting
  exact ⟨String.ofList middle, String.toList_inj.mp (by simpa using shape)⟩

theorem affixes_of_fits {pattern : FilePattern} {name : String}
    (fitting : pattern.fits name = true) :
    pattern.start.toList <+: name.toList ∧ pattern.ending.toList <:+ name.toList := by
  obtain ⟨middle, shape⟩ := exists_middle_of_fits fitting
  rw [shape]
  exact ⟨⟨middle ++ pattern.ending.toList, (List.append_assoc ..).symm⟩, List.suffix_append _ _⟩

/-- Without a marker, the names that fit are those with anything between the start and the
ending. -/
theorem fits_iff_of_unmarked {pattern : FilePattern} (unmarked : pattern.marker = none)
    {name : String} :
    pattern.fits name = true ↔ ∃ middle, name = pattern.start ++ middle ++ pattern.ending := by
  constructor
  · exact exists_text_of_fits
  · rintro ⟨middle, rfl⟩
    rw [fits, unmarked, middle?_append (by simp : _ = _ ++ middle.toList ++ _)]

theorem getLast?_test_ending (enqueue : Enqueue) (kind : OutputKind) :
    (test enqueue kind).ending.toList.getLast? =
      some (match kind with | .buffer => 'n' | .image => 'w') := by
  cases kind <;> simp [test, OutputKind.label, OutputKind.extension]

/-- The name of an output fits the pattern of replayed outputs of its kind, and of no other. -/
theorem fits_test_outputName {enqueue : Enqueue} {kernel : String} {position : Nat}
    {kind other : OutputKind} :
    (test enqueue other).fits (Naming.outputName enqueue kernel position kind) = true ↔
      other = kind := by
  have shape := Naming.toList_outputName enqueue kernel position kind
  constructor
  · intro fitting
    obtain ⟨front, split⟩ := (affixes_of_fits fitting).2
    have lasts := congrArg List.getLast? (split.trans shape)
    rw [List.getLast?_append, List.getLast?_append, getLast?_test_ending, getLast?_test_ending,
      Option.some_or, Option.some_or, Option.some_inj] at lasts
    cases other <;> cases kind <;> first | rfl | cases lasts
  · rintro rfl
    rw [fits, middle?_append shape]
    exact occurs_iff.mpr
      ⟨kernel.toList, Nat.toDigits 10 position, by simp [Naming.positionMarker_eq]⟩

end FilePattern

end LaunchReplay
