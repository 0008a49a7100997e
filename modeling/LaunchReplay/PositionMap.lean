/-!
# Maps keyed by position

Finite maps from argument positions, kept as entries in strictly ascending order, so that two maps
with the same values are equal and every traversal is in position order.
-/

namespace LaunchReplay

/-- A finite map from argument positions. -/
structure PositionMap (α : Type) where
  /-- Positions with their values, ascending. -/
  entries : List (Nat × α)
  /-- No position occurs twice or out of order. -/
  ascending : entries.Pairwise fun left right => left.1 < right.1
deriving DecidableEq

namespace PositionMap

variable {α β : Type}

/-- The map without entries. -/
def empty : PositionMap α := ⟨[], .nil⟩

instance : Inhabited (PositionMap α) := ⟨empty⟩

/-- The value at a position. -/
def get? (map : PositionMap α) (position : Nat) : Option α :=
  (map.entries.find? fun entry => entry.1 == position).map (·.2)

/-- Whether a position has a value. -/
def contains (map : PositionMap α) (position : Nat) : Bool :=
  (map.get? position).isSome

/-- The positions that have a value, ascending. -/
def positions (map : PositionMap α) : List Nat :=
  map.entries.map (·.1)

/-- The number of positions that have a value. -/
def size (map : PositionMap α) : Nat :=
  map.entries.length

/-- Entries with one more value, in place of any at its position. -/
def place (position : Nat) (value : α) : List (Nat × α) → List (Nat × α)
  | [] => [(position, value)]
  | entry :: rest =>
    if position < entry.1 then (position, value) :: entry :: rest
    else if position = entry.1 then (position, value) :: rest
    else entry :: place position value rest

theorem mem_place {position : Nat} {value : α} {entries : List (Nat × α)} {found : Nat × α}
    (member : found ∈ place position value entries) :
    found = (position, value) ∨ found ∈ entries := by
  induction entries with
  | nil => simpa [place] using member
  | cons entry rest induction =>
      unfold place at member
      split at member
      · simpa using member
      · split at member
        · rcases List.mem_cons.mp member with found | found
          · exact .inl found
          · exact .inr (List.mem_cons_of_mem _ found)
        · rcases List.mem_cons.mp member with found | found
          · exact .inr (found ▸ List.mem_cons_self)
          · rcases induction found with found | found
            · exact .inl found
            · exact .inr (List.mem_cons_of_mem _ found)

theorem place_ascending (position : Nat) (value : α) {entries : List (Nat × α)}
    (ascending : entries.Pairwise fun left right => left.1 < right.1) :
    (place position value entries).Pairwise fun left right => left.1 < right.1 := by
  induction entries with
  | nil => simp [place]
  | cons entry rest induction =>
      obtain ⟨below, tail⟩ := List.pairwise_cons.mp ascending
      unfold place
      split
      · rename_i before
        refine List.pairwise_cons.mpr ⟨?_, ascending⟩
        intro later member
        rcases List.mem_cons.mp member with rfl | member
        · exact before
        · exact Nat.lt_trans before (below later member)
      · split
        · rename_i same
          exact List.pairwise_cons.mpr ⟨fun later member => same ▸ below later member, tail⟩
        · rename_i notBefore notSame
          refine List.pairwise_cons.mpr ⟨?_, induction tail⟩
          intro later member
          rcases mem_place member with rfl | member
          · exact Nat.lt_of_le_of_ne (Nat.not_lt.mp notBefore) (Ne.symm notSame)
          · exact below later member

/-- The map with a value at a position, in place of any that it had there. -/
def insert (map : PositionMap α) (position : Nat) (value : α) : PositionMap α :=
  ⟨place position value map.entries, place_ascending position value map.ascending⟩

/-- The map of a list of entries, where a later one replaces an earlier one. -/
def ofList (entries : List (Nat × α)) : PositionMap α :=
  entries.foldl (fun map entry => map.insert entry.1 entry.2) empty

@[simp]
theorem get?_empty (position : Nat) : (empty : PositionMap α).get? position = none := rfl

theorem find?_place (position : Nat) (value : α) (entries : List (Nat × α)) (wanted : Nat)
    (ascending : entries.Pairwise fun left right => left.1 < right.1) :
    ((place position value entries).find? fun entry => entry.1 == wanted) =
      if position = wanted then some (position, value)
      else entries.find? fun entry => entry.1 == wanted := by
  induction entries with
  | nil => by_cases same : position = wanted <;> simp [place, same]
  | cons entry rest induction =>
      obtain ⟨_, tail⟩ := List.pairwise_cons.mp ascending
      unfold place
      split
      · by_cases same : position = wanted <;> simp [List.find?_cons, same]
      · split
        · rename_i same
          by_cases wantedHere : position = wanted
          · simp [wantedHere]
          · have elsewhere : ¬ entry.1 = wanted := same ▸ wantedHere
            simp [wantedHere, elsewhere]
        · rename_i notSame
          by_cases here : entry.1 = wanted
          · have other : ¬ position = wanted := fun same => notSame (same.trans here.symm)
            simp [here, other]
          · simpa [List.find?_cons, here] using induction tail

@[simp]
theorem get?_insert (map : PositionMap α) (position : Nat) (value : α) (wanted : Nat) :
    (map.insert position value).get? wanted =
      if position = wanted then some value else map.get? wanted := by
  simp only [get?, insert, find?_place position value map.entries wanted map.ascending]
  split <;> rfl

/-- The map with each value replaced by its image. -/
def map (image : α → β) (map : PositionMap α) : PositionMap β where
  entries := map.entries.map fun entry => (entry.1, image entry.2)
  ascending := List.pairwise_map.mpr map.ascending

/-- The map with each value replaced by the outcome of a step, taken in position order up to the
first that fails. -/
def traverse {ε : Type} (step : Nat → α → Except ε β) (map : PositionMap α) :
    Except ε (PositionMap β) :=
  (map.entries.mapM fun entry => (step entry.1 entry.2).map (entry.1, ·)).map ofList

/-- Whether each position is its own index in the order of positions. -/
def isContiguous (map : PositionMap α) : Bool :=
  map.positions.zipIdx.all fun entry => entry.1 == entry.2

/-- The least position from a start that a list of ascending positions leaves free. -/
def firstGapFrom (start : Nat) : List Nat → Nat
  | [] => start
  | position :: rest => if position = start then firstGapFrom (start + 1) rest else start

/-- The least position without a value. -/
def firstGap (map : PositionMap α) : Nat :=
  firstGapFrom 0 map.positions

end PositionMap

end LaunchReplay
