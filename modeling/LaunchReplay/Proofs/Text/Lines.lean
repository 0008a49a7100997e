import LaunchReplay.Text.Lines
import Mathlib.Data.List.TakeWhile

/-!
# Texts as lines and tokens

What the lines of a text and the tokens of a line are, said without the scans that find them: a text
has certain lines exactly if it is written as these lines with line ends behind them, and a line has
certain tokens exactly if it is written as these tokens with white space around and between them.
-/

namespace LaunchReplay.Text

/-- Whether a text is white space. -/
def Blank (text : List Char) : Prop := ∀ letter ∈ text, isBlank letter = true

instance (text : List Char) : Decidable (Blank text) :=
  decidable_of_iff (text.all isBlank = true) List.all_eq_true

/-- Whether a text has no white space in it. -/
def Solid (text : List Char) : Prop := ∀ letter ∈ text, isBlank letter = false

theorem blank_nil : Blank [] := by simp [Blank]

theorem blank_takeWhile (text : List Char) : Blank (text.takeWhile isBlank) :=
  fun _ => List.mem_takeWhile_imp

theorem Blank.reverse {text : List Char} (blank : Blank text) : Blank text.reverse :=
  fun letter inside => blank letter (List.mem_reverse.mp inside)

theorem Blank.dropWhile_append {before : List Char} (blank : Blank before) (rest : List Char) :
    (before ++ rest).dropWhile isBlank = rest.dropWhile isBlank :=
  List.dropWhile_append_of_pos blank

/-- Letters that do not start with white space stay, with all that is behind them. -/
theorem dropWhile_append_of_visible {core : List Char}
    (visible : ∀ letter ∈ core.head?, isBlank letter = false) (nonempty : core ≠ [])
    (rest : List Char) : (core ++ rest).dropWhile isBlank = core ++ rest := by
  obtain ⟨first, others, rfl⟩ := List.exists_cons_of_ne_nil nonempty
  rw [List.cons_append, List.dropWhile_cons_of_neg (by simp [visible first rfl])]

theorem visible_of_mem_head?_dropWhile {text : List Char} {letter : Char}
    (first : letter ∈ (text.dropWhile isBlank).head?) : isBlank letter = false := by
  have kept := List.head?_dropWhile_not isBlank text
  rwa [first] at kept

/-! ## White space around a text -/

theorem exists_trimStart_eq (text : List Char) :
    ∃ after, trimStart text = trim text ++ after ∧ Blank after := by
  refine ⟨((trimStart text).reverse.takeWhile isBlank).reverse, ?_, (blank_takeWhile _).reverse⟩
  rw [trim, trimEnd, ← List.reverse_append, List.takeWhile_append_dropWhile, List.reverse_reverse]

/-- Trimming takes white space away from both ends of a text. -/
theorem exists_eq_append_trim (text : List Char) :
    ∃ before after, text = before ++ trim text ++ after ∧ Blank before ∧ Blank after := by
  obtain ⟨after, back, after_blank⟩ := exists_trimStart_eq text
  have front : text = text.takeWhile isBlank ++ trimStart text :=
    List.takeWhile_append_dropWhile.symm
  refine ⟨text.takeWhile isBlank, after, ?_, blank_takeWhile text, after_blank⟩
  rw [List.append_assoc, ← back]
  exact front

/-- Whether a text is another one with white space around it, where the other neither starts nor ends
with white space. -/
structure Trims (text core : List Char) : Prop where
  /-- What is around the other text is white space. -/
  surrounded : ∃ before after, text = before ++ core ++ after ∧ Blank before ∧ Blank after
  /-- The other text does not start with white space. -/
  starts : ∀ letter ∈ core.head?, isBlank letter = false
  /-- The other text does not end with white space. -/
  ends : ∀ letter ∈ core.getLast?, isBlank letter = false

theorem trims_trim (text : List Char) : Trims text (trim text) where
  surrounded := exists_eq_append_trim text
  starts := by
    intro letter first
    obtain ⟨after, back, _⟩ := exists_trimStart_eq text
    have first_kept : letter ∈ (trimStart text).head? := by
      rw [back, List.head?_append, first]
      rfl
    exact visible_of_mem_head?_dropWhile first_kept
  ends := by
    intro letter last
    rw [trim, trimEnd, List.getLast?_reverse] at last
    exact visible_of_mem_head?_dropWhile last

/-- No other text is left without the white space around it. -/
theorem Trims.trim_eq {text core : List Char} (trims : Trims text core) : trim text = core := by
  obtain ⟨before, after, rfl, before_blank, after_blank⟩ := trims.surrounded
  by_cases empty : core = []
  · have dropped : after.dropWhile isBlank = [] := List.dropWhile_eq_nil_iff.mpr after_blank
    rw [empty, List.append_nil, trim, trimStart, before_blank.dropWhile_append, dropped]
    rfl
  · have front : trimStart (before ++ core ++ after) = core ++ after := by
      rw [trimStart, List.append_assoc, before_blank.dropWhile_append,
        dropWhile_append_of_visible trims.starts empty]
    have ends : ∀ letter ∈ core.reverse.head?, isBlank letter = false := by
      rw [List.head?_reverse]
      exact trims.ends
    have back : core.reverse.dropWhile isBlank = core.reverse := by
      simpa using dropWhile_append_of_visible ends (by simpa using empty) []
    rw [trim, front, trimEnd, List.reverse_append, after_blank.reverse.dropWhile_append, back,
      List.reverse_reverse]

/-- A text without white space in it is what is left of it with white space around it. -/
theorem trim_of_solid {before core after : List Char} (before_blank : Blank before)
    (solid : Solid core) (after_blank : Blank after) : trim (before ++ core ++ after) = core :=
  Trims.trim_eq
    { surrounded := ⟨before, after, rfl, before_blank, after_blank⟩
      starts := fun letter first => solid letter (List.mem_of_mem_head? first)
      ends := fun letter last => solid letter (List.mem_of_mem_getLast? last) }

/-! ## Tokens -/

/-- Whether a line is written as tokens with white space around and between them. -/
inductive Spaced : List Char → List (List Char) → Prop
  /-- White space has no tokens. -/
  | blank {line : List Char} (blank : Blank line) : Spaced line []
  /-- A token goes on up to white space or the end of the line. -/
  | token {before token rest : List Char} {others : List (List Char)} (blank : Blank before)
    (solid : Solid token) (nonempty : token ≠ [])
    (ended : ∀ letter ∈ rest.head?, isBlank letter = true) (spaced : Spaced rest others) :
    Spaced (before ++ token ++ rest) (token :: others)

/-- There need not be white space before a token. -/
theorem Solid.spaced_append {token rest : List Char} {others : List (List Char)}
    (solid : Solid token) (nonempty : token ≠ [])
    (ended : ∀ letter ∈ rest.head?, isBlank letter = true) (spaced : Spaced rest others) :
    Spaced (token ++ rest) (token :: others) := by
  have front := Spaced.token blank_nil solid nonempty ended spaced
  exact front

theorem Spaced.cons {letter : Char} {line : List Char} {words : List (List Char)}
    (space : isBlank letter = true) (spaced : Spaced line words) :
    Spaced (letter :: line) words := by
  cases spaced with
  | blank blank => exact .blank (List.forall_mem_cons.mpr ⟨space, blank⟩)
  | token blank solid nonempty ended others =>
      exact .token (List.forall_mem_cons.mpr ⟨space, blank⟩) solid nonempty ended others

/-- A letter before a line that starts with a token belongs to this token. -/
theorem Spaced.extend {letter next : Char} {rest token : List Char} {others : List (List Char)}
    (visible : isBlank letter = false) (next_visible : isBlank next = false)
    (spaced : Spaced (next :: rest) (token :: others)) :
    Spaced (letter :: next :: rest) ((letter :: token) :: others) := by
  generalize line_eq : next :: rest = line at spaced
  cases spaced with
  | @token before _ rest' _ blank solid nonempty ended spaced =>
      cases before with
      | nil =>
          have longer : Solid (letter :: token) := List.forall_mem_cons.mpr ⟨visible, solid⟩
          exact longer.spaced_append (List.cons_ne_nil _ _) ended spaced
      | cons first before =>
          obtain rfl := (List.cons.inj line_eq).1
          exact absurd (blank next List.mem_cons_self) (by simp [next_visible])

theorem tokens_cons_of_blank {letter : Char} (space : isBlank letter = true) (rest : List Char) :
    tokens (letter :: rest) = tokens rest := by
  cases rest <;> simp [tokens, space]

theorem tokens_of_blank_append {before : List Char} (blank : Blank before) (rest : List Char) :
    tokens (before ++ rest) = tokens rest := by
  induction before with
  | nil => rfl
  | cons letter before induction =>
      obtain ⟨space, blank⟩ := List.forall_mem_cons.mp blank
      rw [List.cons_append, tokens_cons_of_blank space, induction blank]

theorem tokens_of_solid_append {token rest : List Char} (solid : Solid token)
    (nonempty : token ≠ []) (ended : ∀ letter ∈ rest.head?, isBlank letter = true) :
    tokens (token ++ rest) = token :: tokens rest := by
  induction token with
  | nil => exact absurd rfl nonempty
  | cons letter token induction =>
      obtain ⟨visible, solid⟩ := List.forall_mem_cons.mp solid
      cases token with
      | nil =>
          cases rest with
          | nil => simp [tokens, visible]
          | cons next rest => simp [tokens, visible, ended next rfl]
      | cons next token =>
          have longer := induction solid (List.cons_ne_nil _ _)
          rw [List.cons_append] at longer
          rw [List.cons_append, List.cons_append, tokens.eq_3, if_neg (by simp [visible]),
            if_neg (by simp [solid next]), longer]

theorem spaced_tokens (line : List Char) : Spaced line (tokens line) := by
  fun_induction tokens line with
  | case1 => exact .blank blank_nil
  | case2 letter rest space induction => exact induction.cons space
  | case3 letter visible =>
      have solid : Solid [letter] := by simpa [Solid] using visible
      exact solid.spaced_append (List.cons_ne_nil _ _) (by simp) (.blank blank_nil)
  | case4 letter visible next rest space induction =>
      have solid : Solid [letter] := by simpa [Solid] using visible
      exact solid.spaced_append (List.cons_ne_nil _ _) (by simpa using space) induction
  | case5 letter visible next rest next_visible empty induction =>
      rw [empty] at induction
      generalize line_eq : next :: rest = line at induction
      cases induction with
      | blank blank => exact absurd (blank next (by simp [← line_eq])) next_visible
  | case6 letter visible next rest next_visible token others split_eq induction =>
      rw [split_eq] at induction ⊢
      exact induction.extend (by simpa using visible) (by simpa using next_visible)

/-- The tokens of a line are those that it is written with. -/
theorem tokens_eq_iff {line : List Char} {words : List (List Char)} :
    tokens line = words ↔ Spaced line words := by
  constructor
  · rintro rfl
    exact spaced_tokens line
  · intro spaced
    induction spaced with
    | blank blank =>
        have empty := tokens_of_blank_append blank []
        rwa [List.append_nil] at empty
    | token blank solid nonempty ended _ induction =>
        rw [List.append_assoc, tokens_of_blank_append blank,
          tokens_of_solid_append solid nonempty ended, induction]

theorem Spaced.append_blank {line after : List Char} {words : List (List Char)}
    (spaced : Spaced line words) (after_blank : Blank after) : Spaced (line ++ after) words := by
  induction spaced with
  | blank blank => exact .blank (List.forall_mem_append.mpr ⟨blank, after_blank⟩)
  | @token before token rest others blank solid nonempty ended _ induction =>
      rw [List.append_assoc]
      refine .token blank solid nonempty ?_ induction
      cases rest with
      | nil => exact fun letter first => after_blank letter (List.mem_of_mem_head? first)
      | cons first rest => simpa using ended

/-- White space at the end of a line does not matter for its tokens. -/
theorem tokens_append_blank {line after : List Char} (after_blank : Blank after) :
    tokens (line ++ after) = tokens line :=
  tokens_eq_iff.mpr ((spaced_tokens line).append_blank after_blank)

/-! ## Lines -/

/-- Whether a text is written as lines with line ends behind them. -/
inductive Lined : List Char → List (List Char) → Prop
  /-- The empty text has no lines. -/
  | empty : Lined [] []
  /-- The last line can do without a line end, unless it is empty. -/
  | last {line : List Char} (nonempty : line ≠ []) (unbroken : '\n' ∉ line) : Lined line [line]
  /-- A line is ended by a line feed alone. -/
  | ended {line rest : List Char} {others : List (List Char)} (unbroken : '\n' ∉ line)
    (unreturned : line.getLast? ≠ some '\r') (lined : Lined rest others) :
    Lined (line ++ '\n' :: rest) (line :: others)
  /-- A line is ended by a carriage return and a line feed. -/
  | returned {line rest : List Char} {others : List (List Char)} (unbroken : '\n' ∉ line)
    (lined : Lined rest others) : Lined (line ++ '\r' :: '\n' :: rest) (line :: others)

/-- A letter before a line belongs to it, unless it is part of a line end. -/
theorem Lined.extend {letter : Char} {rest line : List Char} {others : List (List Char)}
    (inside : letter ≠ '\n') (alone : letter = '\r' → rest.head? ≠ some '\n')
    (lined : Lined rest (line :: others)) : Lined (letter :: rest) ((letter :: line) :: others) := by
  cases lined with
  | last nonempty unbroken =>
      exact .last (List.cons_ne_nil _ _) (by simp [inside.symm, unbroken])
  | ended unbroken unreturned lined =>
      have longer : '\n' ∉ letter :: line := by simp [inside.symm, unbroken]
      refine Lined.ended longer ?_ lined
      cases line with
      | nil => simpa using alone
      | cons first line => simpa using unreturned
  | returned unbroken lined =>
      have longer : '\n' ∉ letter :: line := by simp [inside.symm, unbroken]
      exact Lined.returned longer lined

theorem lined_lines (text : List Char) : Lined text (lines text) := by
  fun_induction lines text with
  | case1 => exact .empty
  | case2 rest induction => exact Lined.ended List.not_mem_nil (by simp) induction
  | case3 rest induction => exact Lined.returned List.not_mem_nil induction
  | case4 letter rest inside alone empty induction =>
      rw [empty] at induction
      cases induction with
      | empty => exact .last (List.cons_ne_nil _ _) (by simpa [eq_comm] using inside)
  | case5 letter rest inside alone line others split_eq induction =>
      rw [split_eq] at induction
      refine induction.extend inside fun return_eq feed => ?_
      obtain ⟨tail, rfl⟩ : ∃ tail, rest = '\n' :: tail := by
        cases rest with
        | nil => cases feed
        | cons first tail => exact ⟨tail, by simpa using feed⟩
      exact alone tail return_eq rfl

theorem lines_cons {letter : Char} {rest line : List Char} {others : List (List Char)}
    (inside : letter ≠ '\n') (alone : letter = '\r' → rest.head? ≠ some '\n')
    (split_eq : lines rest = line :: others) :
    lines (letter :: rest) = (letter :: line) :: others := by
  rw [lines.eq_4 letter rest inside, split_eq]
  rintro tail rfl rfl
  exact alone rfl rfl

/-- Letters before a line belong to it, unless the last of them is part of a line end. -/
theorem lines_append {front rest line : List Char} {others : List (List Char)}
    (unbroken : '\n' ∉ front) (alone : front.getLast? = some '\r' → rest.head? ≠ some '\n')
    (split_eq : lines rest = line :: others) :
    lines (front ++ rest) = (front ++ line) :: others := by
  induction front with
  | nil => exact split_eq
  | cons letter front induction =>
      obtain ⟨inside, unbroken⟩ := not_or.mp (List.mem_cons.not.mp unbroken)
      refine lines_cons (Ne.symm inside) (fun return_eq => ?_) (induction unbroken fun last => ?_)
      · cases front with
        | nil => exact alone (by rw [return_eq]; rfl)
        | cons next front =>
            intro feed
            obtain rfl := Option.some.inj feed
            exact unbroken List.mem_cons_self
      · exact alone (by rw [List.getLast?_cons, last]; rfl)

theorem lines_unended {line : List Char} (nonempty : line ≠ []) (unbroken : '\n' ∉ line) :
    lines line = [line] := by
  have split := List.dropLast_concat_getLast nonempty
  have inside : line.getLast nonempty ≠ '\n' := fun same =>
    unbroken (same ▸ List.getLast_mem nonempty)
  have front_unbroken : '\n' ∉ line.dropLast := fun broken =>
    unbroken (List.dropLast_subset line broken)
  have single : lines [line.getLast nonempty] = [[line.getLast nonempty]] := by
    rw [lines.eq_4 _ [] inside (by simp), lines]
  have whole := lines_append front_unbroken (fun _ => by simpa using inside) single
  rwa [split] at whole

/-- The lines of a text are those that it is written with. -/
theorem lines_eq_iff {text : List Char} {split : List (List Char)} :
    lines text = split ↔ Lined text split := by
  constructor
  · rintro rfl
    exact lined_lines text
  · intro lined
    induction lined with
    | empty => rfl
    | last nonempty unbroken => exact lines_unended nonempty unbroken
    | @ended line rest others unbroken unreturned _ induction =>
        have feed : lines ('\n' :: rest) = [] :: others := by rw [lines, induction]
        simpa using lines_append unbroken (fun last => absurd last unreturned) feed
    | @returned line rest others unbroken _ induction =>
        have feed : lines ('\r' :: '\n' :: rest) = [] :: others := by rw [lines, induction]
        simpa using lines_append unbroken (by simp) feed

/-- A row before a line feed is a line with the same tokens, whether or not it ends in a carriage
return that belongs to the line end. -/
theorem exists_line_of_row {row : List Char} (unbroken : '\n' ∉ row) (rest : List Char) :
    ∃ line, lines (row ++ '\n' :: rest) = line :: lines rest ∧ tokens line = tokens row := by
  by_cases returned : row.getLast? = some '\r'
  · obtain ⟨line, rfl⟩ := List.getLast?_eq_some_iff.mp returned
    have line_unbroken : '\n' ∉ line := fun broken => unbroken (by simp [broken])
    refine ⟨line, lines_eq_iff.mpr ?_, ?_⟩
    · rw [List.append_assoc]
      exact .returned line_unbroken (lined_lines rest)
    · rw [tokens_append_blank (by decide)]
  · exact ⟨row, lines_eq_iff.mpr (.ended unbroken returned (lined_lines rest)), rfl⟩

end LaunchReplay.Text
