import LaunchReplay.Proofs.FileTree.Path
import Mathlib.Data.List.Infix

/-!
# Segments of paths

What a path is split into can be put together again, so the directories above a path have the first
of its segments. Within a text that starts and ends in a name, only two dots between slashes lead
upwards.
-/

namespace LaunchReplay

/-- The name that a segment adds to a location, if it is one. -/
def PathSegment.name? : PathSegment → Option String
  | .here => none
  | .up => none
  | .name text => some text

namespace Path

/-- The names that a path without steps upwards adds to the location at which it starts. -/
def names (path : Path) : List String :=
  path.segments.filterMap PathSegment.name?

/-- Whether a text leads upwards wherever it stands between names in a path. -/
def Climbs (text : String) : Prop :=
  ['/', '.', '.', '/'] <:+: text.toList

instance (text : String) : Decidable (Climbs text) :=
  inferInstanceAs (Decidable (_ <:+: _))

variable {text part : List Char} {parts : List (List Char)} {path : Path}

/-! ## Splitting and putting together -/

theorem plain_of_mem_splitSlashes (part_mem : part ∈ splitSlashes text) : '/' ∉ part := by
  induction text generalizing part with
  | nil =>
      obtain rfl : part = [] := by simpa [splitSlashes] using part_mem
      simp
  | cons letter rest induction =>
      obtain ⟨first, others, split_eq⟩ := List.exists_cons_of_ne_nil (splitSlashes_ne_nil rest)
      rw [splitSlashes] at part_mem
      split at part_mem
      · rcases List.mem_cons.mp part_mem with rfl | later
        · simp
        · exact induction later
      · rename_i other
        rw [split_eq] at part_mem
        rcases List.mem_cons.mp part_mem with rfl | later
        · rw [List.mem_cons, not_or]
          exact ⟨Ne.symm other, induction (by simp [split_eq])⟩
        · exact induction (by simp [split_eq, later])

theorem splitSlashes_intercalate (nonempty : parts ≠ []) (plain : ∀ part ∈ parts, '/' ∉ part) :
    splitSlashes (['/'].intercalate parts) = parts := by
  induction parts with
  | nil => exact absurd rfl nonempty
  | cons first rest induction =>
      have first_plain := plain first List.mem_cons_self
      cases rest with
      | nil => rw [List.intercalate_singleton, splitSlashes_of_plain first_plain]
      | cons second others =>
          rw [List.intercalate_cons_cons, List.append_assoc, List.singleton_append,
            splitSlashes_append, splitSlashes_of_plain first_plain,
            induction (List.cons_ne_nil _ _) fun part later =>
              plain part (List.mem_cons_of_mem _ later)]
          rfl

theorem intercalate_splitSlashes (text : List Char) :
    ['/'].intercalate (splitSlashes text) = text := by
  induction text with
  | nil => rfl
  | cons letter rest induction =>
      obtain ⟨first, others, split_eq⟩ := List.exists_cons_of_ne_nil (splitSlashes_ne_nil rest)
      rw [split_eq] at induction
      rw [splitSlashes, split_eq]
      split
      · rename_i slash
        rw [List.intercalate_cons_cons, induction, slash]
        rfl
      · cases others with
        | nil => simpa using induction
        | cons second more =>
            rw [List.intercalate_cons_cons] at induction ⊢
            simpa using induction

/-- A part that is put together with others stands at an end or next to slashes. -/
theorem exists_of_mem_intercalate (part_mem : part ∈ parts) :
    ∃ before after, ['/'].intercalate parts = before ++ part ++ after ∧
      (before = [] ∨ ∃ front, before = front ++ ['/']) ∧
        (after = [] ∨ ∃ rest, after = '/' :: rest) := by
  induction parts with
  | nil => cases part_mem
  | cons first rest induction =>
      cases rest with
      | nil =>
          obtain rfl := List.mem_singleton.mp part_mem
          exact ⟨[], [], by simp, .inl rfl, .inl rfl⟩
      | cons second others =>
          rw [List.intercalate_cons_cons]
          rcases List.mem_cons.mp part_mem with rfl | later
          · refine ⟨[], '/' :: ['/'].intercalate (second :: others), ?_, .inl rfl, .inr ⟨_, rfl⟩⟩
            simp
          · obtain ⟨before, after, split_eq, start, finish⟩ := induction later
            refine ⟨first ++ ['/'] ++ before, after, by simp [split_eq], .inr ?_, finish⟩
            rcases start with rfl | ⟨front, rfl⟩
            · exact ⟨first, by simp⟩
            · exact ⟨first ++ ['/'] ++ front, by simp⟩

/-! ## Steps upwards -/

theorem segment?_eq_up : segment? part = some .up → part = ['.', '.'] := by
  intro up
  unfold segment? at up
  split at up <;> first | rfl | cases up

/-- A text leads upwards at its start, at its end, or everywhere. -/
theorem climbs_of_up_mem (up : .up ∈ path.segments) (start : path.text.toList.head? ≠ some '.')
    (finish : path.text.toList.getLast? ≠ some '.') : Climbs path.text := by
  obtain ⟨part, part_mem, part_up⟩ := List.mem_filterMap.mp up
  obtain rfl := segment?_eq_up part_up
  obtain ⟨before, after, shape, before_slash, after_slash⟩ := exists_of_mem_intercalate part_mem
  rw [intercalate_splitSlashes] at shape
  obtain ⟨front, rfl⟩ := before_slash.resolve_left fun nothing => start (by simp [shape, nothing])
  obtain ⟨rest, rfl⟩ := after_slash.resolve_left fun nothing => finish (by simp [shape, nothing])
  exact ⟨front, rest, by simp [shape]⟩

theorem exists_of_plain_append {front rest before after : List Char} (plain : '/' ∉ front)
    (same : front ++ rest = before ++ '/' :: after) :
    ∃ more, before = front ++ more ∧ rest = more ++ '/' :: after := by
  rcases List.append_eq_append_iff.mp same with ⟨more, before_eq, rest_eq⟩ | ⟨more, front_eq, slash⟩
  · exact ⟨more, before_eq, rest_eq⟩
  · cases more with
    | nil => exact ⟨[], by simpa using front_eq.symm, by simpa using slash.symm⟩
    | cons letter more =>
        obtain ⟨rfl, _⟩ := List.cons.inj slash
        exact absurd (by simp [front_eq]) plain

theorem exists_of_append_plain {front back before after : List Char} (plain : '/' ∉ back)
    (same : front ++ back = before ++ '/' :: after) :
    ∃ more, after = more ++ back ∧ front = before ++ '/' :: more := by
  have reversed : back.reverse ++ front.reverse = after.reverse ++ '/' :: before.reverse := by
    simpa using congrArg List.reverse same
  obtain ⟨more, after_eq, front_eq⟩ := exists_of_plain_append (by simpa using plain) reversed
  exact ⟨more.reverse, by simpa using congrArg List.reverse after_eq,
    by simpa using congrArg List.reverse front_eq⟩

/-- Texts without slashes before and behind another make it lead upwards no more than it does. -/
theorem climbs_of_climbs_append {front name back : String} (front_plain : '/' ∉ front.toList)
    (back_plain : '/' ∉ back.toList) (climbs : Climbs (front ++ name ++ back)) : Climbs name := by
  obtain ⟨before, after, split_eq⟩ := climbs
  have whole : front.toList ++ (name.toList ++ back.toList) =
      before ++ '/' :: ('.' :: '.' :: '/' :: after) := by simpa using split_eq.symm
  obtain ⟨more, rfl, rest⟩ := exists_of_plain_append front_plain whole
  have ended : name.toList ++ back.toList = (more ++ ['/', '.', '.']) ++ '/' :: after := by
    simpa using rest
  obtain ⟨behind, rfl, name_eq⟩ := exists_of_append_plain back_plain ended
  exact ⟨more, behind, by simp [name_eq]⟩

theorem not_climbs_of_plain {text : String} (plain : '/' ∉ text.toList) : ¬ Climbs text := by
  rintro ⟨before, after, shape⟩
  exact plain (by simp [← shape])

theorem segments_ne_nil {letter : Char} {rest : List Char}
    (shape : path.text.toList = letter :: rest) (other : letter ≠ '/') : path.segments ≠ [] := by
  obtain ⟨first, others, split_eq⟩ := List.exists_cons_of_ne_nil (splitSlashes_ne_nil rest)
  rw [segments, shape, splitSlashes, if_neg other, split_eq]
  intro nothing
  have none_of := List.filterMap_eq_nil_iff.mp nothing (letter :: first) List.mem_cons_self
  unfold segment? at none_of
  split at none_of <;> simp_all

/-- A text is followed in its last part by whatever has no slash. -/
theorem exists_last_part (text : List Char) :
    ∃ tail, ∀ back, '/' ∉ back → (splitSlashes (text ++ back)).getLast? = some (tail ++ back) := by
  by_cases slash : '/' ∈ text
  · obtain ⟨tail, front, reversed, plain⟩ :=
      List.eq_append_cons_of_mem (List.mem_reverse.mpr slash)
    have shape : text = front.reverse ++ '/' :: tail.reverse := by
      simpa using congrArg List.reverse reversed
    refine ⟨tail.reverse, fun back back_plain => ?_⟩
    have last_plain : '/' ∉ tail.reverse ++ back := by simp [plain, back_plain]
    rw [shape, List.append_assoc, List.cons_append, splitSlashes_append,
      splitSlashes_of_plain last_plain, List.getLast?_concat]
  · refine ⟨text, fun back back_plain => ?_⟩
    have plain : '/' ∉ text ++ back := by simp [slash, back_plain]
    rw [splitSlashes_of_plain plain]
    rfl

theorem segment?_of_length (long : 2 < part.length) :
    segment? part = some (.name (String.ofList part)) := by
  unfold segment?
  split
  · simp at long
  · simp at long
  · simp at long
  · rfl

theorem getLast?_segments (last_part : (splitSlashes path.text.toList).getLast? = some part)
    (long : 2 < part.length) :
    path.segments.getLast? = some (.name (String.ofList part)) := by
  obtain ⟨front, split_eq⟩ := List.getLast?_eq_some_iff.mp last_part
  rw [segments, split_eq, List.filterMap_append, List.filterMap_cons, segment?_of_length long]
  exact List.getLast?_concat

/-! ## Directories above -/

theorem isName_of_mem_segments {name : String} (name_mem : .name name ∈ path.segments) :
    IsName name := by
  obtain ⟨part, part_mem, part_name⟩ := List.mem_filterMap.mp name_mem
  have plain := plain_of_mem_splitSlashes part_mem
  unfold segment? at part_name
  split at part_name
  · cases part_name
  · cases part_name
  · cases part_name
  · rename_i nonempty not_here not_up
    cases part_name
    refine ⟨?_, ?_, ?_, ?_⟩ <;> rw [String.toList_ofList] <;> assumption

variable {segments : List PathSegment}

theorem segment?_segmentText {segment : PathSegment}
    (named : ∀ name, segment = .name name → IsName name) :
    segment? (segmentText segment).toList = some segment := by
  cases segment with
  | here => rfl
  | up => rfl
  | name name => exact segment?_of_isName (named name rfl)

theorem plain_segmentText {segment : PathSegment}
    (named : ∀ name, segment = .name name → IsName name) : '/' ∉ (segmentText segment).toList := by
  cases segment with
  | here => decide
  | up => decide
  | name name => exact (named name rfl).plain

theorem segmentText_ne_nil {segment : PathSegment}
    (named : ∀ name, segment = .name name → IsName name) : (segmentText segment).toList ≠ [] := by
  cases segment with
  | here => decide
  | up => decide
  | name name => exact (named name rfl).nonempty

theorem toList_ofSegments (absolute : Bool) (segments : List PathSegment) :
    (ofSegments absolute segments).text.toList = (if absolute then ['/'] else []) ++
      ['/'].intercalate (segments.map fun segment => (segmentText segment).toList) := by
  rw [ofSegments]
  cases absolute <;> simp [String.toList_intercalate, Function.comp_def]

variable (absolute : Bool) (named : ∀ name, .name name ∈ segments → IsName name)

include named

/-- The path of some segments has these segments. -/
theorem segments_ofSegments : (ofSegments absolute segments).segments = segments := by
  have own (segment : PathSegment) (segment_mem : segment ∈ segments) (name : String)
      (same : segment = .name name) : IsName name :=
    named name (same ▸ segment_mem)
  have texts : (segments.map fun segment => (segmentText segment).toList).filterMap segment? =
      segments := by
    rw [List.filterMap_map]
    calc segments.filterMap (segment? ∘ fun segment => (segmentText segment).toList)
        = segments.filterMap some := List.filterMap_congr fun segment segment_mem =>
          segment?_segmentText (own segment segment_mem)
      _ = segments := List.filterMap_some
  have split_eq : (splitSlashes (['/'].intercalate
      (segments.map fun segment => (segmentText segment).toList))).filterMap segment? =
        segments := by
    by_cases nothing : segments = []
    · simp [nothing, splitSlashes, segment?]
    · rw [splitSlashes_intercalate (by simpa using nothing), texts]
      intro part part_mem
      obtain ⟨segment, segment_mem, rfl⟩ := List.mem_map.mp part_mem
      exact plain_segmentText (own segment segment_mem)
  rw [Path.segments, toList_ofSegments]
  cases absolute with
  | false => exact split_eq
  | true =>
      rw [if_pos rfl, List.singleton_append, ← List.nil_append ('/' :: _), splitSlashes_append,
        List.filterMap_append, split_eq]
      rfl

theorem isAbsolute_ofSegments : (ofSegments absolute segments).isAbsolute = absolute := by
  rw [isAbsolute, toList_ofSegments]
  cases absolute with
  | true => rfl
  | false =>
      cases segments with
      | nil => rfl
      | cons first rest =>
          have own : ∀ name, first = .name name → IsName name := fun name same =>
            named name (by simp [same])
          obtain ⟨letter, text, shape⟩ := List.exists_cons_of_ne_nil (segmentText_ne_nil own)
          have other : letter ≠ '/' := fun slash => plain_segmentText own (by simp [shape, slash])
          cases rest <;> simp [List.intercalate_cons_cons, shape, other]

omit named

/-- A directory above a path starts where the path does and has the first of its segments. -/
theorem segments_of_mem_above {directory : Path} (above : directory ∈ path.above) :
    directory.isAbsolute = path.isAbsolute ∧ directory.segments <+: path.segments := by
  rw [Path.above, List.mem_map] at above
  obtain ⟨head, head_mem, rfl⟩ := above
  obtain ⟨last, _, rfl⟩ := List.mem_map.mp (List.mem_filter.mp head_mem).1
  have among_first : (dropDots path.segments).dropLast.take (last + 1) <+: path.segments := by
    have undotted : dropDots path.segments <+: path.segments := by
      rw [dropDots, ← List.reverse_suffix, List.reverse_reverse]
      exact List.dropWhile_suffix _
    exact ((List.take_prefix _ _).trans (List.dropLast_prefix _)).trans undotted
  have named : ∀ name, .name name ∈ (dropDots path.segments).dropLast.take (last + 1) →
      IsName name := fun name name_mem => isName_of_mem_segments (among_first.subset name_mem)
  refine ⟨isAbsolute_ofSegments _ named, ?_⟩
  rw [segments_ofSegments _ named]
  exact among_first

end Path

end LaunchReplay
