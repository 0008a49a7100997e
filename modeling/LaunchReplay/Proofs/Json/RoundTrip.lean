import LaunchReplay.Json.Printer
import LaunchReplay.Proofs.Json.Escape
import LaunchReplay.Proofs.Text.Numeral
import Mathlib.Data.List.DropRight

/-!
# Values are read back from their layout

The values that are written hold natural numbers and escaped texts. The indented layout of such a
value denotes that value and no other: a reader that comes to the layout takes exactly its
characters.
-/

namespace LaunchReplay.Json

open Text

/-- Values that are written: their numbers are natural, and their texts and keys are escaped. -/
inductive Written : Json → Prop
  | null : Written .null
  | bool (value : Bool) : Written (.bool value)
  | natural (number : Nat) : Written (.natural number)
  | text (string : String) : Written (.text string)
  | array {items : List Json} : (∀ item ∈ items, Written item) → Written (.array items)
  | object {members : List (List Char × Json)} :
      (∀ member ∈ members, ∃ name, member.1 = escape name) →
        (∀ member ∈ members, Written member.2) → Written (.object members)

/-- What may come after a value in the indented layout. -/
inductive Ends : List Char → Prop
  | nil : Ends []
  | comma (rest : List Char) : Ends (',' :: rest)
  | line (rest : List Char) : Ends ('\n' :: rest)

theorem Ends.lineBreak (level : Nat) (rest : List Char) : Ends (lineBreak level ++ rest) :=
  .line _

/-! ## Numbers -/

theorem isDigit_of_decimal {letter : Char} (digit : letter.isDigit = true) :
    isDigit letter = true := by
  rw [isDigit, digit?_of_isDigit digit]
  rfl

theorem readDigits_toDigits (number : Nat) {rest : List Char} (ends : Ends rest) :
    readDigits (Nat.toDigits 10 number ++ rest) = some (Nat.toDigits 10 number, rest) := by
  have digits : ∀ letter ∈ Nat.toDigits 10 number, isDigit letter = true := fun _ inside =>
    isDigit_of_decimal (isDigit_of_mem_toDigits inside)
  have taken : rest.takeWhile isDigit = [] := by cases ends <;> rfl
  have dropped : rest.dropWhile isDigit = rest := by cases ends <;> rfl
  rw [readDigits, List.takeWhile_append_of_pos digits, List.dropWhile_append_of_pos digits, taken,
    dropped, List.append_nil]
  obtain ⟨letter, tail, digits_eq, _⟩ := toDigits_starts number
  rw [digits_eq]

theorem readWhole_toDigits (number : Nat) {rest : List Char} (ends : Ends rest) :
    readWhole (Nat.toDigits 10 number ++ rest) = some (Nat.toDigits 10 number, rest) := by
  by_cases zero : number = 0
  · subst zero
    rfl
  · obtain ⟨letter, tail, digits_eq, _⟩ := toDigits_starts number
    have not_zero : letter ≠ '0' := by
      rintro rfl
      exact zero (eq_zero_of_toDigits digits_eq)
    have whole := readDigits_toDigits number ends
    rw [digits_eq, List.cons_append] at whole ⊢
    rw [readWhole.eq_2 _ (by simpa using not_zero)]
    exact whole

/-- A numeral is taken up to its end. -/
theorem readNumber_toDigits (number : Nat) {rest : List Char} (ends : Ends rest) :
    readNumber (Nat.toDigits 10 number ++ rest) = some (Nat.toDigits 10 number, rest) := by
  have fraction : readFraction rest = some ([], rest) := by cases ends <;> rfl
  have exponent : readExponent rest = some ([], rest) := by cases ends <;> rfl
  have unsigned : readUnsigned (Nat.toDigits 10 number ++ rest) =
      some (Nat.toDigits 10 number, rest) := by
    simp [readUnsigned, readWhole_toDigits number ends, fraction, exponent]
  obtain ⟨letter, tail, digits_eq, digit⟩ := toDigits_starts number
  have not_sign : letter ≠ '-' := by
    rintro rfl
    exact absurd digit (by decide)
  rw [digits_eq, List.cons_append] at unsigned ⊢
  rw [readNumber.eq_2 _ (by simpa using not_sign)]
  exact unsigned

/-! ## Blanks -/

theorem skipSpace_lineBreak (level : Nat) (text : List Char) :
    skipSpace (lineBreak level ++ text) = skipSpace text := by
  refine List.dropWhile_append_of_pos fun letter inside => ?_
  rcases List.mem_cons.mp inside with rfl | inside
  · rfl
  · rw [(List.mem_replicate.mp inside).2]
    rfl

theorem skipSpace_skipSpace (text : List Char) : skipSpace (skipSpace text) = skipSpace text :=
  List.dropWhile_idempotent _ _

theorem readValue_skipSpace (fuel : Nat) (text : List Char) :
    readValue fuel (skipSpace text) = readValue fuel text := by
  cases fuel with
  | zero => rfl
  | succ fuel => rw [readValue, readValue, skipSpace_skipSpace]

theorem readItems_skipSpace (fuel : Nat) (text : List Char) :
    readItems fuel (skipSpace text) = readItems fuel text := by
  cases fuel with
  | zero => rfl
  | succ fuel => rw [readItems, readItems, readValue_skipSpace]

theorem readMembers_skipSpace (fuel : Nat) (text : List Char) :
    readMembers fuel (skipSpace text) = readMembers fuel text := by
  cases fuel with
  | zero => rfl
  | succ fuel => rw [readMembers, readMembers, skipSpace_skipSpace]

theorem readValue_lineBreak (fuel level : Nat) (text : List Char) :
    readValue fuel (lineBreak level ++ text) = readValue fuel text := by
  rw [← readValue_skipSpace, skipSpace_lineBreak, readValue_skipSpace]

theorem skipSpace_cons {letter : Char} (bare : isSpace letter = false) (tail : List Char) :
    skipSpace (letter :: tail) = letter :: tail :=
  List.dropWhile_cons_of_neg (by simp [bare])

theorem isSpace_of_isDigit {letter : Char} (digit : letter.isDigit = true) :
    isSpace letter = false := by
  refine Bool.eq_false_iff.mpr fun blank => ?_
  simp only [isSpace, Bool.or_eq_true, beq_iff_eq] at blank
  rcases blank with ((rfl | rfl) | rfl) | rfl <;> exact absurd digit (by decide)

/-- A layout starts with a character of the value, and not as the end of an array. -/
theorem Written.starts {json : Json} (written : json.Written) (level : Nat) :
    ∃ letter tail, json.indented level = letter :: tail ∧ isSpace letter = false ∧
      letter ≠ ']' := by
  cases written with
  | null => exact ⟨_, _, rfl, rfl, by decide⟩
  | bool value => cases value <;> exact ⟨_, _, rfl, rfl, by decide⟩
  | natural number =>
      obtain ⟨letter, tail, digits_eq, digit⟩ := toDigits_starts number
      refine ⟨letter, tail, digits_eq, isSpace_of_isDigit digit, ?_⟩
      rintro rfl
      exact absurd digit (by decide)
  | text string => exact ⟨_, _, rfl, rfl, by decide⟩
  | @array items _ => cases items <;> exact ⟨_, _, rfl, rfl, by decide⟩
  | @object members _ _ => cases members <;> exact ⟨_, _, rfl, rfl, by decide⟩

/-! ## Reading values -/

theorem readValue_of_isDigit {letter : Char} (digit : letter.isDigit = true) (fuel : Nat)
    (tail : List Char) :
    readValue (fuel + 1) (letter :: tail) =
      (readNumber (letter :: tail)).map fun (literal, rest) => (.number literal, rest) := by
  have kept : skipSpace (letter :: tail) = letter :: tail :=
    skipSpace_cons (isSpace_of_isDigit digit) tail
  rw [readValue, kept]
  split
  case h_7 => rfl
  all_goals
    rename_i same
    cases same
    exact absurd digit (by decide)

/-- Whether a value is read back from its layout, wherever that ends. Fuel for two steps a character
is enough: one that takes the character, and one that goes into a part that starts with it. -/
def ReadsBack (json : Json) : Prop :=
  ∀ level fuel rest, 2 * (json.indented level).length < fuel → Ends rest →
    readValue fuel (json.indented level ++ rest) = some (json, rest)

theorem readsBack_natural (number : Nat) : ReadsBack (natural number) := by
  intro level fuel rest enough ends
  obtain ⟨letter, tail, digits_eq, digit⟩ := toDigits_starts number
  have whole := readNumber_toDigits number ends
  have layout : (natural number).indented level = letter :: tail := digits_eq
  obtain ⟨fuel, rfl⟩ := Nat.exists_eq_add_one_of_ne_zero (Nat.ne_zero_of_lt enough)
  rw [digits_eq, List.cons_append] at whole
  rw [layout, List.cons_append, readValue_of_isDigit digit, whole, natural, digits_eq]
  rfl

theorem readsBack_text (string : String) : ReadsBack (text string) := by
  intro level fuel rest enough _
  have layout : (text string).indented level ++ rest =
      '"' :: (escape string.toList ++ '"' :: rest) := by
    simp [text, indented, printAtom, quotedString]
  obtain ⟨fuel, rfl⟩ := Nat.exists_eq_add_one_of_ne_zero (Nat.ne_zero_of_lt enough)
  rw [layout, readValue, skipSpace_cons rfl]
  simp only [readString_escape, List.reverse_nil, List.nil_append]
  rfl

/-! ## Arrays -/

theorem indentedItems_append (level : Nat) (item next : Json) (items : List Json)
    (rest : List Char) :
    indentedItems level (item :: next :: items) ++ rest =
      lineBreak level ++
        (item.indented level ++ ',' :: (indentedItems level (next :: items) ++ rest)) := by
  rw [indentedItems]
  · simp
  · simp

theorem exists_indentedItems_cons (level : Nat) (item : Json) (items : List Json) :
    ∃ text, indentedItems level (item :: items) =
      lineBreak level ++ (item.indented level ++ text) := by
  cases items with
  | nil => exact ⟨[], by rw [indentedItems, List.append_nil]⟩
  | cons next items =>
      refine ⟨',' :: indentedItems level (next :: items), ?_⟩
      simpa using indentedItems_append level item next items []

/-- The items of an array are read back if each of them is. -/
theorem readItems_indentedItems {items : List Json} (nonempty : items ≠ [])
    (each : ∀ item ∈ items, item.ReadsBack) {level fuel : Nat}
    (enough : 2 * (indentedItems level items).length < fuel) (outer : Nat) (rest : List Char) :
    readItems fuel (indentedItems level items ++ (lineBreak outer ++ ']' :: rest)) =
      some (items, rest) := by
  -- The line break before an item pays for the step from one item to the next.
  induction items generalizing fuel with
  | nil => exact absurd rfl nonempty
  | cons item items induction =>
      have item_back := each item (by simp)
      cases items with
      | nil =>
          rw [indentedItems, List.length_append, lineBreak, List.length_cons] at enough
          obtain ⟨fuel, rfl⟩ := Nat.exists_eq_add_one_of_ne_zero (Nat.ne_zero_of_lt enough)
          rw [indentedItems, List.append_assoc, readItems, readValue_lineBreak,
            item_back level fuel _ (by omega) (.lineBreak _ _)]
          simp only [skipSpace_lineBreak]
          rfl
      | cons next items =>
          have length_eq := congrArg List.length (indentedItems_append level item next items [])
          simp only [List.append_nil, List.length_append, List.length_cons, lineBreak] at length_eq
          obtain ⟨fuel, rfl⟩ := Nat.exists_eq_add_one_of_ne_zero (Nat.ne_zero_of_lt enough)
          have later := @induction (List.cons_ne_nil next items)
            (fun other other_mem => each other (List.mem_cons_of_mem _ other_mem)) fuel (by omega)
          rw [indentedItems_append, readItems, readValue_lineBreak,
            item_back level fuel _ (by omega) (.comma _)]
          change (readItems fuel (indentedItems level (next :: items) ++ _)).map _ = _
          rw [later]
          rfl

/-- An array that does not end at once is read as its items. -/
theorem readValue_bracket {text : List Char} {letter : Char} {tail : List Char}
    (starts : skipSpace text = letter :: tail) (inhabited : letter ≠ ']') (fuel : Nat) :
    readValue (fuel + 1) ('[' :: text) =
      (readItems fuel text).map fun (items, rest) => (.array items, rest) := by
  rw [← readItems_skipSpace fuel text, readValue, skipSpace_cons rfl]
  simp only [starts]
  split
  · rename_i same
    exact absurd (List.cons.inj same).1 inhabited
  · rfl

/-- An object that does not end at once is read as its members. -/
theorem readValue_brace {text : List Char} {letter : Char} {tail : List Char}
    (starts : skipSpace text = letter :: tail) (inhabited : letter ≠ '\x7d') (fuel : Nat) :
    readValue (fuel + 1) ('\x7b' :: text) =
      (readMembers fuel text).map fun (members, rest) => (.object members, rest) := by
  rw [← readMembers_skipSpace fuel text, readValue, skipSpace_cons rfl]
  simp only [starts]
  split
  · rename_i same
    exact absurd (List.cons.inj same).1 inhabited
  · rfl

theorem indented_array (level : Nat) {items : List Json} (nonempty : items ≠ [])
    (rest : List Char) :
    (array items).indented level ++ rest =
      '[' :: (indentedItems (level + 1) items ++ (lineBreak level ++ ']' :: rest)) := by
  rw [indented]
  · simp
  · exact nonempty

theorem readsBack_array {items : List Json} (written : ∀ item ∈ items, item.Written)
    (each : ∀ item ∈ items, item.ReadsBack) : ReadsBack (.array items) := by
  intro level fuel rest enough _
  rcases items with _ | ⟨item, items⟩
  · obtain ⟨fuel, rfl⟩ := Nat.exists_eq_add_one_of_ne_zero (Nat.ne_zero_of_lt enough)
    rfl
  · have length_eq := congrArg List.length (indented_array level (List.cons_ne_nil item items) [])
    simp only [List.append_nil, List.length_append, List.length_cons] at length_eq
    obtain ⟨fuel, rfl⟩ := Nat.exists_eq_add_one_of_ne_zero (Nat.ne_zero_of_lt enough)
    obtain ⟨letter, tail, item_eq, bare, inhabited⟩ :=
      (written item (by simp)).starts (level + 1)
    obtain ⟨text, items_eq⟩ := exists_indentedItems_cons (level + 1) item items
    have starts : skipSpace (indentedItems (level + 1) (item :: items) ++
        (lineBreak level ++ ']' :: rest)) =
          letter :: (tail ++ (text ++ (lineBreak level ++ ']' :: rest))) := by
      rw [items_eq, item_eq]
      simp only [List.append_assoc, List.cons_append, skipSpace_lineBreak, skipSpace_cons bare]
    rw [indented_array level (List.cons_ne_nil item items), readValue_bracket starts inhabited,
      readItems_indentedItems (List.cons_ne_nil item items) each (by omega)]
    rfl

/-! ## Objects -/

theorem indentedMembers_append (level : Nat) (key : List Char) (value : Json)
    (next : List Char × Json) (members : List (List Char × Json)) (rest : List Char) :
    indentedMembers level ((key, value) :: next :: members) ++ rest =
      lineBreak level ++ '"' :: (key ++ '"' :: ':' :: ' ' ::
        (value.indented level ++ ',' :: (indentedMembers level (next :: members) ++ rest))) := by
  rw [indentedMembers]
  · simp [quotedString]
  · simp

theorem indentedMembers_single (level : Nat) (key : List Char) (value : Json)
    (rest : List Char) :
    indentedMembers level [(key, value)] ++ rest =
      lineBreak level ++ '"' :: (key ++ '"' :: ':' :: ' ' :: (value.indented level ++ rest)) := by
  simp [indentedMembers, quotedString]

/-- Reads on after a member, to the next one or to the end of the object. -/
def readOn (fuel : Nat) (member : List Char × Json) (rest : List Char) :
    Option (List (List Char × Json) × List Char) :=
  match skipSpace rest with
  | ',' :: rest => (readMembers fuel rest).map fun (members, rest) => (member :: members, rest)
  | '\x7d' :: rest => some ([member], rest)
  | _ => none

/-- One member is read up to what comes after its value. -/
theorem readMembers_member (name : List Char) {value : Json} (back : value.ReadsBack)
    {level fuel : Nat} (enough : 2 * (value.indented level).length < fuel) {rest : List Char}
    (ends : Ends rest) :
    readMembers (fuel + 1) (lineBreak level ++
        '"' :: (escape name ++ '"' :: ':' :: ' ' :: (value.indented level ++ rest))) =
      readOn fuel (escape name, value) rest := by
  have value_eq : readValue fuel (' ' :: (value.indented level ++ rest)) = some (value, rest) := by
    rw [← readValue_skipSpace]
    change readValue fuel (skipSpace (value.indented level ++ rest)) = _
    rw [readValue_skipSpace, back level fuel rest enough ends]
  rw [readMembers, skipSpace_lineBreak, skipSpace_cons rfl]
  simp only [readString_escape, List.reverse_nil, List.nil_append]
  rw [skipSpace_cons rfl]
  simp only [value_eq]
  rfl

/-- The members of an object are read back if each of their values is. -/
theorem readMembers_indentedMembers {members : List (List Char × Json)} (nonempty : members ≠ [])
    (keys : ∀ member ∈ members, ∃ name, member.1 = escape name)
    (each : ∀ member ∈ members, member.2.ReadsBack) {level fuel : Nat}
    (enough : 2 * (indentedMembers level members).length < fuel) (outer : Nat)
    (rest : List Char) :
    readMembers fuel (indentedMembers level members ++ (lineBreak outer ++ '\x7d' :: rest)) =
      some (members, rest) := by
  induction members generalizing fuel with
  | nil => exact absurd rfl nonempty
  | cons member members induction =>
      obtain ⟨key, value⟩ := member
      obtain ⟨name, rfl⟩ : ∃ name, key = escape name := keys _ List.mem_cons_self
      have value_back : value.ReadsBack := each _ List.mem_cons_self
      cases members with
      | nil =>
          have length_eq := congrArg List.length
            (indentedMembers_single level (escape name) value [])
          simp only [List.append_nil, List.length_append, List.length_cons, lineBreak] at length_eq
          obtain ⟨fuel, rfl⟩ := Nat.exists_eq_add_one_of_ne_zero (Nat.ne_zero_of_lt enough)
          rw [indentedMembers_single,
            readMembers_member name value_back (by omega) (.lineBreak _ _), readOn,
            skipSpace_lineBreak]
          rfl
      | cons next members =>
          have length_eq := congrArg List.length
            (indentedMembers_append level (escape name) value next members [])
          simp only [List.append_nil, List.length_append, List.length_cons, lineBreak] at length_eq
          obtain ⟨fuel, rfl⟩ := Nat.exists_eq_add_one_of_ne_zero (Nat.ne_zero_of_lt enough)
          have later := @induction (List.cons_ne_nil next members)
            (fun other other_mem => keys other (List.mem_cons_of_mem _ other_mem))
            (fun other other_mem => each other (List.mem_cons_of_mem _ other_mem)) fuel (by omega)
          rw [indentedMembers_append,
            readMembers_member name value_back (by omega) (.comma _)]
          change (readMembers fuel (indentedMembers level (next :: members) ++ _)).map _ = _
          rw [later]
          rfl

theorem indented_object (level : Nat) {members : List (List Char × Json)}
    (nonempty : members ≠ []) (rest : List Char) :
    (object members).indented level ++ rest =
      '\x7b' :: (indentedMembers (level + 1) members ++ (lineBreak level ++ '\x7d' :: rest)) := by
  rw [indented]
  · simp
  · exact nonempty

theorem exists_indentedMembers_cons (level : Nat) (member : List Char × Json)
    (members : List (List Char × Json)) :
    ∃ text, indentedMembers level (member :: members) = lineBreak level ++ '"' :: text := by
  cases members with
  | nil => exact ⟨_, by simpa using indentedMembers_single level member.1 member.2 []⟩
  | cons next members =>
      exact ⟨_, by simpa using indentedMembers_append level member.1 member.2 next members []⟩

theorem readsBack_object {members : List (List Char × Json)}
    (keys : ∀ member ∈ members, ∃ name, member.1 = escape name)
    (each : ∀ member ∈ members, member.2.ReadsBack) : ReadsBack (.object members) := by
  intro level fuel rest enough _
  rcases members with _ | ⟨member, members⟩
  · obtain ⟨fuel, rfl⟩ := Nat.exists_eq_add_one_of_ne_zero (Nat.ne_zero_of_lt enough)
    rfl
  · have nonempty := List.cons_ne_nil member members
    have length_eq := congrArg List.length (indented_object level nonempty [])
    simp only [List.append_nil, List.length_append, List.length_cons] at length_eq
    obtain ⟨fuel, rfl⟩ := Nat.exists_eq_add_one_of_ne_zero (Nat.ne_zero_of_lt enough)
    obtain ⟨text, members_eq⟩ := exists_indentedMembers_cons (level + 1) member members
    have starts : skipSpace (indentedMembers (level + 1) (member :: members) ++
        (lineBreak level ++ '\x7d' :: rest)) =
          '"' :: (text ++ (lineBreak level ++ '\x7d' :: rest)) := by
      rw [members_eq]
      simp only [List.append_assoc, List.cons_append, skipSpace_lineBreak]
      rfl
    rw [indented_object level nonempty, readValue_brace starts (by decide),
      readMembers_indentedMembers nonempty keys each (by omega)]
    rfl

/-! ## Whole texts -/

/-- A written value is read back from its layout. -/
theorem Written.readsBack {json : Json} (written : json.Written) : json.ReadsBack := by
  induction written with
  | null =>
      intro level fuel rest enough _
      obtain ⟨fuel, rfl⟩ := Nat.exists_eq_add_one_of_ne_zero (Nat.ne_zero_of_lt enough)
      rfl
  | bool value =>
      intro level fuel rest enough _
      obtain ⟨fuel, rfl⟩ := Nat.exists_eq_add_one_of_ne_zero (Nat.ne_zero_of_lt enough)
      cases value <;> rfl
  | natural number => exact readsBack_natural number
  | text string => exact readsBack_text string
  | array written induction => exact readsBack_array written induction
  | object keys _ induction => exact readsBack_object keys induction

/-- A written value is what its text denotes. -/
theorem Written.read_indentedText {json : Json} (written : json.Written) :
    read json.indentedText = some json := by
  have back := written.readsBack 0 (2 * (json.indented 0).length + 2) [] (by omega) .nil
  rw [List.append_nil] at back
  rw [read, indentedText, String.toList_ofList, back]
  rfl

end LaunchReplay.Json
