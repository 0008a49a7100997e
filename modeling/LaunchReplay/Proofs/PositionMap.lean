import LaunchReplay.PositionMap
import LaunchReplay.Proofs.Outcome
import Mathlib.Data.List.Pairwise
import Mathlib.Data.List.Sort
import Mathlib.Order.Bounds.Basic

/-!
# Laws of maps keyed by position

A map is determined by what it answers at each position: its entries are the positions that have a
value, each with that value, in strictly ascending order.
-/

namespace LaunchReplay.PositionMap

variable {α β : Type}

theorem get?_eq_some_iff {map : PositionMap α} {position : Nat} {value : α} :
    map.get? position = some value ↔ (position, value) ∈ map.entries := by
  obtain ⟨entries, ascending⟩ := map
  simp only [get?, Option.map_eq_some_iff, Prod.exists, exists_eq_right]
  constructor
  · rintro ⟨found, search⟩
    obtain rfl : found = position := by simpa using List.find?_some search
    exact List.mem_of_find?_eq_some search
  · intro member
    refine ⟨position, ?_⟩
    obtain ⟨before, after, rfl⟩ := List.append_of_mem member
    refine List.find?_eq_some_iff_append.mpr ⟨by simp, before, after, rfl, ?_⟩
    intro earlier earlier_mem
    have below : earlier.1 < position :=
      (List.pairwise_append.mp ascending).2.2 earlier earlier_mem (position, value) (by simp)
    simp [Nat.ne_of_lt below]

theorem positions_ascending (map : PositionMap α) : map.positions.Pairwise (· < ·) :=
  List.pairwise_map.mpr map.ascending

theorem mem_positions_iff {map : PositionMap α} {position : Nat} :
    position ∈ map.positions ↔ ∃ value, map.get? position = some value := by
  simp only [positions, get?_eq_some_iff, List.mem_map, Prod.exists, exists_and_right,
    exists_eq_right]

theorem contains_iff {map : PositionMap α} {position : Nat} :
    map.contains position = true ↔ position ∈ map.positions := by
  rw [contains, Option.isSome_iff_exists, mem_positions_iff]

/-- Two maps with the same answers are the same map. -/
theorem ext_get? {left right : PositionMap α}
    (same : ∀ position, left.get? position = right.get? position) : left = right := by
  have irreflexive : Std.Irrefl fun left right : Nat × α => left.1 < right.1 :=
    ⟨fun entry => Nat.lt_irrefl entry.1⟩
  have antisymmetric : Std.Antisymm fun left right : Nat × α => left.1 < right.1 :=
    ⟨fun _ _ forward backward => absurd forward (Nat.lt_asymm backward)⟩
  have entries_eq : left.entries = right.entries := by
    apply left.ascending.eq_of_mem_iff right.ascending
    rintro ⟨position, value⟩
    rw [← get?_eq_some_iff, ← get?_eq_some_iff, same position]
  cases left
  cases right
  cases entries_eq
  rfl

@[simp]
theorem get?_map (image : α → β) (map : PositionMap α) (position : Nat) :
    (map.map image).get? position = (map.get? position).map image := by
  simp [get?, PositionMap.map, List.find?_map, Function.comp_def]

@[simp]
theorem positions_map (image : α → β) (map : PositionMap α) :
    (map.map image).positions = map.positions := by
  simp [positions, PositionMap.map, Function.comp_def]

theorem map_insert (image : α → β) (map : PositionMap α) (position : Nat) (value : α) :
    (map.insert position value).map image = (map.map image).insert position (image value) := by
  apply ext_get?
  intro wanted
  rw [get?_map, get?_insert, get?_insert, get?_map]
  split <;> rfl

/-- Inserting entries in order: the last one at a position decides, and the map where there is
none. -/
theorem get?_foldl_insert (map : PositionMap α) (entries : List (Nat × α)) (position : Nat) :
    (entries.foldl (fun grown entry => grown.insert entry.1 entry.2) map).get? position =
      ((entries.reverse.find? fun entry => entry.1 == position).map (·.2)).or
        (map.get? position) := by
  induction entries generalizing map with
  | nil => simp
  | cons entry rest induction =>
      rw [List.foldl_cons, induction, get?_insert, List.reverse_cons, List.find?_append]
      cases rest.reverse.find? fun later => later.1 == position with
      | some later => rfl
      | none =>
          by_cases same : entry.1 = position <;> simp [same]

theorem mem_of_get?_ofList {entries : List (Nat × α)} {position : Nat} {value : α}
    (held : (ofList entries).get? position = some value) : (position, value) ∈ entries := by
  rw [ofList, get?_foldl_insert, get?_empty, Option.or_none, Option.map_eq_some_iff] at held
  obtain ⟨⟨found, held⟩, search, rfl⟩ := held
  obtain rfl : found = position := by simpa using List.find?_some search
  exact List.mem_reverse.mp (List.mem_of_find?_eq_some search)

theorem mem_positions_ofList_iff {entries : List (Nat × α)} {position : Nat} :
    position ∈ (ofList entries).positions ↔ position ∈ entries.map (·.1) := by
  rw [mem_positions_iff]
  constructor
  · rintro ⟨value, held⟩
    exact List.mem_map_of_mem (mem_of_get?_ofList held)
  · intro listed
    obtain ⟨entry, entry_mem, rfl⟩ := List.mem_map.mp listed
    have present : (entries.reverse.find? fun other => other.1 == entry.1).isSome := by
      rw [List.find?_isSome]
      exact ⟨entry, List.mem_reverse.mpr entry_mem, by simp⟩
    obtain ⟨other, search⟩ := Option.isSome_iff_exists.mp present
    refine ⟨other.2, ?_⟩
    rw [ofList, get?_foldl_insert, search]
    rfl

/-- A list that is already in ascending order is its own map. -/
theorem ofList_entries (map : PositionMap α) : ofList map.entries = map := by
  apply ext_get?
  intro position
  cases held : map.get? position with
  | some value =>
      have listed : position ∈ (ofList map.entries).positions :=
        mem_positions_ofList_iff.mpr (mem_positions_iff.mpr ⟨value, held⟩)
      obtain ⟨other, found⟩ := mem_positions_iff.mp listed
      rw [found, ← held, get?_eq_some_iff.mpr (mem_of_get?_ofList found)]
  | none =>
      apply Option.eq_none_iff_forall_ne_some.mpr
      intro value found
      cases held.symm.trans (get?_eq_some_iff.mpr (mem_of_get?_ofList found))

/-- Steps that each insert a value at a free position all succeed if no position is taken, and the
map that they grow has the new values beside the old ones. -/
theorem foldlM_insert_ok {ε : Type} {step : PositionMap β → α → Except ε (PositionMap β)}
    {place : α → Nat} {value : α → β} {items : List α} {start : PositionMap β}
    (inserts : ∀ item ∈ items, ∀ map : PositionMap β, map.get? (place item) = none →
      step map item = .ok (map.insert (place item) (value item)))
    (distinct : (items.map place).Nodup) (free : ∀ item ∈ items, start.get? (place item) = none) :
    ∃ grown, items.foldlM step start = .ok grown ∧
      ∀ position held, grown.get? position = some held ↔
        start.get? position = some held ∨
          ∃ item ∈ items, place item = position ∧ value item = held := by
  induction items generalizing start with
  | nil => exact ⟨start, rfl, by simp⟩
  | cons item rest induction =>
      rw [List.map_cons, List.nodup_cons] at distinct
      have apart : ∀ other ∈ rest, place item ≠ place other := fun other other_mem same =>
        distinct.1 (same ▸ List.mem_map_of_mem other_mem)
      have still_free : ∀ other ∈ rest,
          (start.insert (place item) (value item)).get? (place other) = none := by
        intro other other_mem
        rw [get?_insert, if_neg (apart other other_mem)]
        exact free other (List.mem_cons_of_mem _ other_mem)
      obtain ⟨grown, run, answers⟩ := induction
        (fun other other_mem => inserts other (List.mem_cons_of_mem _ other_mem)) distinct.2
        still_free
      refine ⟨grown, ?_, fun position held => ?_⟩
      · rw [List.foldlM_cons, inserts item (by simp) start (free item (by simp))]
        exact run
      · have here_free := free item (by simp)
        rw [answers, get?_insert]
        by_cases here : place item = position
        · subst here
          simp [here_free]
        · simp [here]

/-- What comes of adding to a map, one after the other, the entries of those items that have one,
each at a position that is free by then. -/
structure Grown (added? : α → Option (Nat × β)) (items : List α) (before after : PositionMap β) :
    Prop where
  /-- The new entries are beside the old ones. -/
  answers : ∀ position value, after.get? position = some value ↔
    before.get? position = some value ∨ ∃ item ∈ items, added? item = some (position, value)
  /-- No new entry is at the position of an old one. -/
  free : ∀ item ∈ items, ∀ position value, added? item = some (position, value) →
    before.get? position = none
  /-- No two items have entries at one position. -/
  apart : items.Pairwise fun item other => ∀ position value place held,
    added? item = some (position, value) → added? other = some (place, held) → position ≠ place

theorem grown_of_foldlM {ε : Type} {step : PositionMap β → α → Except ε (PositionMap β)}
    {added? : α → Option (Nat × β)} {items : List α} {before after : PositionMap β}
    (adds : ∀ item map next, step map item = .ok next →
      (added? item = none ∧ next = map) ∨ ∃ position value, added? item = some (position, value) ∧
        map.get? position = none ∧ next = map.insert position value)
    (run : items.foldlM step before = .ok after) : Grown added? items before after := by
  induction items generalizing before with
  | nil =>
      obtain rfl := Except.ok.inj (List.foldlM_nil (f := step) ▸ run)
      exact ⟨by simp, by simp, .nil⟩
  | cons item rest induction =>
      rw [List.foldlM_cons] at run
      obtain ⟨middle, first, run⟩ := Outcome.bind_ok.mp run
      obtain ⟨answers, free, apart⟩ := induction run
      rcases adds item before middle first with
        ⟨silent, rfl⟩ | ⟨position, value, added, unset, rfl⟩
      · refine ⟨by simpa [silent] using answers, by simpa [silent] using free, .cons ?_ apart⟩
        intro other _ position value place held here
        cases silent.symm.trans here
      · -- What comes later is at other positions than this item, since those are free then.
        have later : ∀ other ∈ rest, ∀ place held, added? other = some (place, held) →
            position ≠ place ∧ before.get? place = none := by
          intro other other_mem place held there
          have unset_later := free other other_mem place held there
          rw [get?_insert] at unset_later
          split at unset_later
          · cases unset_later
          · exact ⟨‹_›, unset_later⟩
        refine ⟨fun place held => ?_, fun other other_mem place held there => ?_, .cons ?_ apart⟩
        · rw [answers, get?_insert]
          by_cases here : position = place
          · subst here
            simp [added, unset, eq_comm]
          · simp [added, here]
        · rcases List.mem_cons.mp other_mem with rfl | other_mem
          · cases added.symm.trans there
            exact unset
          · exact (later other other_mem place held there).2
        · intro other other_mem place held elsewhere found here there
          cases added.symm.trans here
          exact (later other other_mem _ _ there).1

/-- Two items with entries at one position are the same item. -/
theorem Grown.item_eq {added? : α → Option (Nat × β)} {items : List α}
    {before after : PositionMap β} (grown : Grown added? items before after) {item other : α}
    (item_mem : item ∈ items) (other_mem : other ∈ items) {position : Nat} {value held : β}
    (here : added? item = some (position, value)) (there : added? other = some (position, held)) :
    item = other := by
  have symmetric : Std.Symm fun item other : α => ∀ position value place held,
      added? item = some (position, value) → added? other = some (place, held) →
        position ≠ place :=
    ⟨fun _ _ apart _ _ _ _ here there => (apart _ _ _ _ there here).symm⟩
  by_contra different
  exact grown.apart.forall item_mem other_mem different _ _ _ _ here there rfl

/-- What comes of adding to a map what the entries of another decode to, each at its own position
and free by then. -/
structure Filled {ε : Type} (decode : Nat → α → Except ε β) (source : PositionMap α)
    (before after : PositionMap β) : Prop where
  /-- What was decoded is beside the old entries. -/
  answers : ∀ position value, after.get? position = some value ↔
    before.get? position = some value ∨
      ∃ item, source.get? position = some item ∧ decode position item = .ok value
  /-- Nothing was decoded for the position of an old entry. -/
  free : ∀ position item, source.get? position = some item → before.get? position = none
  /-- Everything can be decoded. -/
  decodes : ∀ position item, source.get? position = some item →
    ∃ value, decode position item = .ok value

theorem filled_of_foldlM {ε δ : Type} {decode : Nat → α → Except δ β}
    {step : PositionMap β → Nat × α → Except ε (PositionMap β)} {source : PositionMap α}
    {before after : PositionMap β}
    (adds : ∀ entry map next, step map entry = .ok next →
      ∃ value, decode entry.1 entry.2 = .ok value ∧ map.get? entry.1 = none ∧
        next = map.insert entry.1 value)
    (run : source.entries.foldlM step before = .ok after) : Filled decode source before after := by
  have grown : Grown (fun entry => (decode entry.1 entry.2).toOption.map (entry.1, ·))
      source.entries before after := by
    refine grown_of_foldlM (fun entry map next stepped => ?_) run
    obtain ⟨value, decoded, unset, next_eq⟩ := adds entry map next stepped
    exact .inr ⟨entry.1, value, by rw [decoded]; rfl, unset, next_eq⟩
  have decodes : ∀ position item, source.get? position = some item →
      ∃ value, decode position item = .ok value := by
    intro position item held
    obtain ⟨map, next, stepped⟩ :=
      Outcome.exists_step_of_foldlM run (get?_eq_some_iff.mp held)
    obtain ⟨value, decoded, _⟩ := adds _ map next stepped
    exact ⟨value, decoded⟩
  refine ⟨fun position value => ?_, fun position item held => ?_, decodes⟩
  · rw [grown.answers]
    apply or_congr_right
    constructor
    · rintro ⟨⟨place, item⟩, item_mem, made⟩
      obtain ⟨found, decoded, pair⟩ := Option.map_eq_some_iff.mp made
      cases pair
      exact ⟨item, get?_eq_some_iff.mpr item_mem, Outcome.toOption_eq_some_iff.mp decoded⟩
    · rintro ⟨item, held, decoded⟩
      exact ⟨(position, item), get?_eq_some_iff.mp held, by rw [decoded]; rfl⟩
  · obtain ⟨value, decoded⟩ := decodes position item held
    exact grown.free (position, item) (get?_eq_some_iff.mp held) position value
      (by rw [decoded]; rfl)

/-! ## Positions without a gap -/

theorem mem_of_lt_firstGapFrom {positions : List Nat} {start position : Nat}
    (from_start : start ≤ position) (before : position < firstGapFrom start positions) :
    position ∈ positions := by
  induction positions generalizing start with
  | nil => exact absurd before (Nat.not_lt.mpr from_start)
  | cons first rest induction =>
      rw [firstGapFrom] at before
      split at before
      · rcases from_start.eq_or_lt with rfl | later
        · simp [*]
        · exact List.mem_cons_of_mem _ (induction later before)
      · exact absurd before (Nat.not_lt.mpr from_start)

theorem le_firstGapFrom (start : Nat) (positions : List Nat) :
    start ≤ firstGapFrom start positions := by
  induction positions generalizing start with
  | nil => exact Nat.le_refl _
  | cons first rest induction =>
      rw [firstGapFrom]
      split
      · exact Nat.le_of_succ_le (induction (start + 1))
      · exact Nat.le_refl _

theorem firstGapFrom_not_mem {positions : List Nat} (ascending : positions.Pairwise (· < ·))
    {start : Nat} (begun : ∀ position ∈ positions, start ≤ position) :
    firstGapFrom start positions ∉ positions := by
  induction positions generalizing start with
  | nil => simp
  | cons first rest induction =>
      obtain ⟨above, ascending⟩ := List.pairwise_cons.mp ascending
      rw [firstGapFrom]
      split
      · rename_i here
        subst here
        rw [List.mem_cons, not_or]
        refine ⟨fun same => ?_, induction ascending above⟩
        -- A gap after the first position would be that position itself.
        have later : first < firstGapFrom (first + 1) rest := le_firstGapFrom _ _
        exact absurd same later.ne'
      · rename_i elsewhere
        have before : start < first :=
          (begun first List.mem_cons_self).lt_of_ne (Ne.symm elsewhere)
        rw [List.mem_cons, not_or]
        exact ⟨before.ne, fun listed => absurd (before.trans (above start listed)) (lt_irrefl _)⟩

/-- The first gap is the least position without a value. -/
theorem isLeast_firstGap (map : PositionMap α) :
    IsLeast {position | map.get? position = none} map.firstGap := by
  refine ⟨?_, fun position free => Nat.not_lt.mp fun before => ?_⟩
  · have free := firstGapFrom_not_mem map.positions_ascending fun position _ => Nat.zero_le position
    rw [mem_positions_iff, not_exists] at free
    exact Option.eq_none_iff_forall_ne_some.mpr free
  · obtain ⟨value, held⟩ :=
      mem_positions_iff.mp (mem_of_lt_firstGapFrom (Nat.zero_le position) before)
    cases held.symm.trans free

/-- Entries that are their own indices, from a start on, are the numbers from that start on. -/
theorem all_zipIdx_eq_iff {positions : List Nat} {start : Nat} :
    ((positions.zipIdx start).all fun entry => entry.1 == entry.2) = true ↔
      positions = List.range' start positions.length := by
  induction positions generalizing start with
  | nil => simp
  | cons first rest induction =>
      rw [List.zipIdx_cons, List.all_cons, Bool.and_eq_true, beq_iff_eq, induction,
        List.length_cons, List.range'_succ, List.cons.injEq]

theorem isContiguous_iff_positions_eq {map : PositionMap α} :
    map.isContiguous = true ↔ map.positions = List.range map.size := by
  have size_eq : map.positions.length = map.size := by simp [positions, size]
  rw [isContiguous, all_zipIdx_eq_iff, ← List.range_eq_range', size_eq]

/-- If there are no positions but those below the size, there are all of them. -/
theorem isContiguous_iff {map : PositionMap α} :
    map.isContiguous = true ↔ ∀ position ∈ map.positions, position < map.size := by
  rw [isContiguous_iff_positions_eq]
  constructor
  · intro same position listed
    rwa [same, List.mem_range] at listed
  · intro below
    have distinct : map.positions.Nodup := map.positions_ascending.imp Nat.ne_of_lt
    have inside : map.positions ⊆ List.range map.size := fun position listed =>
      List.mem_range.mpr (below position listed)
    have whole : map.positions.Perm (List.range map.size) :=
      (List.subperm_of_subset distinct inside).perm_of_length_le (by simp [positions, size])
    exact whole.eq_of_pairwise
      (fun _ _ _ _ forward backward => absurd forward (Nat.lt_asymm backward))
      map.positions_ascending List.pairwise_lt_range

/-- A map without gaps has all the positions below its size, and no other. -/
theorem isContiguous_iff_mem_positions {map : PositionMap α} :
    map.isContiguous = true ↔ ∀ position, position ∈ map.positions ↔ position < map.size := by
  constructor
  · intro contiguous position
    rw [isContiguous_iff_positions_eq.mp contiguous, List.mem_range]
  · exact fun below => isContiguous_iff.mpr fun position => (below position).mp

/-! ## Traversals -/

/-- Values that are related to the entries of a map have its positions. -/
theorem exists_map_of_related {map : PositionMap α} {values : List (Nat × β)}
    {relation : Nat × α → Nat × β → Prop}
    (related : List.Forall₂ (fun entry value => value.1 = entry.1 ∧ relation entry value)
      map.entries values) :
    ∃ bound : PositionMap β, bound.entries = values := by
  have same : values.map Prod.fst = map.positions := by
    rw [PositionMap.positions]
    generalize map.entries = entries at related
    induction related with
    | nil => rfl
    | cons first _ induction => simp [first.1, induction]
  refine ⟨⟨values, ?_⟩, rfl⟩
  have ascending := map.positions_ascending
  rw [← same] at ascending
  exact List.pairwise_map.mp ascending

theorem traverse_congr {ε : Type} {step other : Nat → α → Except ε β} {map : PositionMap α}
    (alike : ∀ entry ∈ map.entries, step entry.1 entry.2 = other entry.1 entry.2) :
    map.traverse step = map.traverse other := by
  refine congrArg (Except.map ofList) (Outcome.mapM_congr fun entry listed => ?_)
  rw [alike entry listed]

/-- A traversal that ends without an error has at each position what its step gives there. -/
theorem filled_of_traverse {ε : Type} {step : Nat → α → Except ε β} {map : PositionMap α}
    {result : PositionMap β} (run : map.traverse step = .ok result) :
    Filled step map .empty result := by
  obtain ⟨entries, steps, rfl⟩ := Outcome.map_ok.mp run
  have related : List.Forall₂ (fun entry value => value.1 = entry.1 ∧
      step entry.1 entry.2 = .ok value.2) map.entries entries := by
    refine (Outcome.mapM_ok.mp steps).imp fun entry value stepped => ?_
    obtain ⟨_, value_ok, rfl⟩ := Outcome.map_ok.mp stepped
    exact ⟨rfl, value_ok⟩
  obtain ⟨bound, rfl⟩ := exists_map_of_related related
  have steps : ∀ position item, map.get? position = some item →
      ∃ value, bound.get? position = some value ∧ step position item = .ok value := by
    intro position item held
    obtain ⟨⟨place, value⟩, value_mem, rfl, stepped⟩ :=
      Outcome.exists_of_mem_of_forall₂ related.flip (get?_eq_some_iff.mp held)
    exact ⟨value, get?_eq_some_iff.mpr value_mem, stepped⟩
  rw [ofList_entries]
  refine ⟨fun position value => ?_, fun _ _ _ => rfl, fun position item held => ?_⟩
  · rw [get?_empty]
    constructor
    · intro found
      obtain ⟨⟨place, item⟩, item_mem, rfl, stepped⟩ :=
        Outcome.exists_of_mem_of_forall₂ related (get?_eq_some_iff.mp found)
      exact .inr ⟨item, get?_eq_some_iff.mpr item_mem, stepped⟩
    · rintro (empty | ⟨item, held, stepped⟩)
      · cases empty
      · obtain ⟨other, found, other_stepped⟩ := steps position item held
        rwa [Except.ok.inj (stepped.symm.trans other_stepped)]
  · obtain ⟨value, _, stepped⟩ := steps position item held
    exact ⟨value, stepped⟩

end LaunchReplay.PositionMap
