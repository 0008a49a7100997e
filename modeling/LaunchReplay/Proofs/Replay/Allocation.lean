import LaunchReplay.Proofs.Device.Steps
import LaunchReplay.Proofs.PositionMap
import LaunchReplay.Proofs.Simulator.Store
import LaunchReplay.Replay.Bindings
import LaunchReplay.Simulator.Basic

/-!
# Objects for the arguments

On a simulated device the objects for the arguments are added one after the other, so the number of
an object within its sort is the number of such objects before it. A position is bound to the last
object that is made for it, and two positions are bound to one memory only if that object is the
same.
-/

namespace LaunchReplay

open Simulator

variable {κ : Type}

namespace Allocation

/-- The positions for which an object is made. -/
def positions : Allocation → List Nat
  | .buffer group => group.positions
  | .region group => group.positions
  | .image position _ _ => [position]
  | .sampler position _ => [position]

/-- The content of an allocation for some positions: that of the first, as long as the longest. -/
def seeded (table : ArgumentTable) (positions : List Nat) : Bytes :=
  (ArgumentTable.preState table (positions.headD 0)).extendTo (Bindings.longest table positions)

/-- The buffer or image that is added for an object. -/
def memory? (table : ArgumentTable) : Allocation → Option Memory
  | .buffer group => some ⟨seeded table group.positions, none⟩
  | .image _ descriptor preState => some ⟨preState, some descriptor⟩
  | _ => none

/-- The shared region that is added for an object. -/
def region? (table : ArgumentTable) : Allocation → Option Bytes
  | .region group => some (seeded table group.positions)
  | _ => none

/-- The sampler that is added for an object. -/
def sampler? : Allocation → Option SamplerDescriptor
  | .sampler _ descriptor => some descriptor
  | _ => none

end Allocation

/-- A simulated device with objects added for some allocations. -/
def Simulator.withObjects (state : Simulator κ) (table : ArgumentTable)
    (objects : List Allocation) : Simulator κ :=
  { state with
    store :=
      { memories := state.store.memories ++ objects.filterMap (Allocation.memory? table)
        regions := state.store.regions ++ objects.filterMap (Allocation.region? table) }
    samplers := state.samplers ++ objects.filterMap Allocation.sampler? }

@[simp]
theorem Simulator.withObjects_nil (state : Simulator κ) (table : ArgumentTable) :
    state.withObjects table [] = state := by
  simp [withObjects]

theorem Simulator.withObjects_append (state : Simulator κ) (table : ArgumentTable)
    (early late : List Allocation) :
    state.withObjects table (early ++ late) =
      (state.withObjects table early).withObjects table late := by
  simp [withObjects]

namespace Allocation

/-- What the positions of an object are bound to when it is added to a device. -/
def members (state : Simulator κ) : Allocation → List (Nat × BoundValue)
  | .buffer group =>
    group.positions.map fun position => (position, .buffer ⟨state.store.memories.length⟩)
  | .region group =>
    group.members.map fun member => (member.1, .svm ⟨state.store.regions.length⟩ member.2)
  | .image position _ _ => [(position, .image ⟨state.store.memories.length⟩)]
  | .sampler position _ => [(position, .sampler ⟨state.samplers.length⟩)]

/-- What the positions of all objects are bound to when these are added one after the other. -/
def allMembers (table : ArgumentTable) (state : Simulator κ) :
    List Allocation → List (Nat × BoundValue)
  | [] => []
  | object :: rest =>
    object.members state ++ allMembers table (state.withObjects table [object]) rest

theorem positions_members (object : Allocation) (state : Simulator κ) :
    (object.members state).map Prod.fst = object.positions := by
  cases object <;> simp [members, positions, SvmGroup.positions, Function.comp_def]

/-! ## Making the objects -/

theorem seedOf_ok {σ : Type} {positions : List Nat} {before after : σ} {seed : Nat} :
    Bindings.seedOf positions.head? before = (.ok seed, after) ↔
      positions ≠ [] ∧ positions.headD 0 = seed ∧ before = after := by
  cases positions <;> simp [Bindings.seedOf]

theorem perform_createRegion (state : Simulator κ) (contents : Bytes) (length : Nat) :
    Device.perform (.createRegion contents length) state = state.createRegion contents length := rfl

/-- Making an object adds it to the device and binds its positions to it. -/
theorem allocate_ok {table : ArgumentTable} {targets assigned : BindingTargets}
    {object : Allocation} {before after : Simulator κ}
    (made : Bindings.allocate table targets object before = (.ok assigned, after)) :
    object.positions ≠ [] ∧ after = before.withObjects table [object] ∧
      assigned = targets.assign (object.members before) := by
  cases object with
  | buffer group =>
      obtain ⟨seed, _, seeded, made⟩ := DeviceM.bind_ok.mp made
      obtain ⟨inhabited, rfl, rfl⟩ := seedOf_ok.mp seeded
      obtain ⟨memory, _, created, made⟩ := DeviceM.bind_ok.mp made
      obtain ⟨rfl, rfl⟩ := DeviceM.pure_ok.mp made
      cases DeviceM.ask_ok.mp created
      refine ⟨inhabited, ?_, rfl⟩
      simp [withObjects, List.filterMap_cons, memory?, region?, sampler?, Allocation.seeded]
  | region group =>
      obtain ⟨seed, _, seeded, made⟩ := DeviceM.bind_ok.mp made
      obtain ⟨inhabited, rfl, rfl⟩ := seedOf_ok.mp seeded
      obtain ⟨region, _, created, made⟩ := DeviceM.bind_ok.mp made
      obtain ⟨rfl, rfl⟩ := DeviceM.pure_ok.mp made
      have performed := DeviceM.ask_ok.mp created
      rw [perform_createRegion, createRegion] at performed
      split at performed
      · cases performed
        refine ⟨inhabited, ?_, rfl⟩
        simp [withObjects, List.filterMap_cons, memory?, region?, sampler?, Allocation.seeded]
      · cases performed
  | image position descriptor preState =>
      obtain ⟨memory, _, created, made⟩ := DeviceM.bind_ok.mp made
      obtain ⟨rfl, rfl⟩ := DeviceM.pure_ok.mp made
      cases DeviceM.ask_ok.mp created
      refine ⟨by simp [positions], ?_, rfl⟩
      simp [withObjects, List.filterMap_cons, memory?, region?, sampler?]
  | sampler position descriptor =>
      obtain ⟨sampler, _, created, made⟩ := DeviceM.bind_ok.mp made
      obtain ⟨rfl, rfl⟩ := DeviceM.pure_ok.mp made
      cases DeviceM.ask_ok.mp created
      refine ⟨by simp [positions], ?_, rfl⟩
      simp [withObjects, List.filterMap_cons, memory?, region?, sampler?]

theorem assign_append (targets : BindingTargets) (early late : List (Nat × BoundValue)) :
    targets.assign (early ++ late) = (targets.assign early).assign late :=
  List.foldl_append

/-- Making all objects adds them in order and binds every position to each object made for it. -/
theorem foldlM_allocate_ok {table : ArgumentTable} {targets assigned : BindingTargets}
    {objects : List Allocation} {before after : Simulator κ}
    (made : objects.foldlM (Bindings.allocate table) targets before = (.ok assigned, after)) :
    (∀ object ∈ objects, object.positions ≠ []) ∧ after = before.withObjects table objects ∧
      assigned = targets.assign (allMembers table before objects) := by
  induction objects generalizing targets before with
  | nil =>
      obtain ⟨rfl, rfl⟩ := DeviceM.pure_ok.mp made
      exact ⟨by simp, by simp, rfl⟩
  | cons object rest induction =>
      rw [List.foldlM_cons] at made
      obtain ⟨middle, _, first, remaining⟩ := DeviceM.bind_ok.mp made
      obtain ⟨inhabited, rfl, rfl⟩ := allocate_ok first
      obtain ⟨rest_inhabited, rfl, rfl⟩ := induction remaining
      refine ⟨by simpa using ⟨inhabited, rest_inhabited⟩, ?_, ?_⟩
      · rw [← Simulator.withObjects_append]
        rfl
      · rw [allMembers, assign_append]

/-! ## The object to which a position is bound -/

/-- The last of some objects that is made for a position, and what it binds the position to. -/
structure Owns (table : ArgumentTable) (state : Simulator κ) (objects before : List Allocation)
    (object : Allocation) (position : Nat) (value : BoundValue) : Prop where
  /-- No later object is made for the position. -/
  last : ∃ after, objects = before ++ object :: after ∧
    ∀ later ∈ after, position ∉ later.positions
  /-- The value is that of the object when it is added. -/
  bound : (position, value) ∈ object.members (state.withObjects table before)

variable {table : ArgumentTable} {state : Simulator κ} {objects before : List Allocation}
  {object : Allocation} {position : Nat} {value : BoundValue}

theorem Owns.mem (owns : Owns table state objects before object position value) :
    object ∈ objects := by
  obtain ⟨after, rfl, _⟩ := owns.last
  simp

theorem Owns.position_mem (owns : Owns table state objects before object position value) :
    position ∈ object.positions := by
  rw [← positions_members object (state.withObjects table before)]
  exact List.mem_map_of_mem owns.bound

theorem positions_allMembers (objects : List Allocation) (state : Simulator κ) :
    (allMembers table state objects).map Prod.fst = objects.flatMap positions := by
  induction objects generalizing state with
  | nil => rfl
  | cons object rest induction =>
      rw [allMembers, List.map_append, positions_members, induction, List.flatMap_cons]

/-- A position that is bound to something is owned by an object. -/
theorem exists_owns
    (found : ((allMembers table state objects).reverse.find? fun member =>
      member.1 == position).map (·.2) = some value) :
    ∃ before object, Owns table state objects before object position value := by
  induction objects generalizing state with
  | nil => simp [allMembers] at found
  | cons object rest induction =>
      rw [allMembers, List.reverse_append, List.find?_append, Option.map_or] at found
      rcases Option.or_eq_some_iff.mp found with later | ⟨nowhere, here⟩
      · obtain ⟨before, owner, ⟨after, rfl, last⟩, bound⟩ := induction later
        refine ⟨object :: before, owner, ⟨after, rfl, last⟩, ?_⟩
        rwa [← Simulator.withObjects_append] at bound
      · refine ⟨[], object, ⟨rest, rfl, ?_⟩, ?_⟩
        · intro other other_mem inside
          have listed : position ∈ rest.flatMap positions :=
            List.mem_flatMap.mpr ⟨other, other_mem, inside⟩
          rw [← positions_allMembers rest (state.withObjects table [object])] at listed
          obtain ⟨member, member_mem, rfl⟩ := List.mem_map.mp listed
          rw [Option.map_eq_none_iff] at nowhere
          have absent := List.find?_eq_none.mp nowhere member (by simpa using member_mem)
          simp at absent
        · obtain ⟨member, search, rfl⟩ := Option.map_eq_some_iff.mp here
          obtain rfl : member.1 = position := by simpa using List.find?_some search
          simpa using List.mem_of_find?_eq_some search

/-- The memory that an object has once it is added to a device. -/
def slot? (state : Simulator κ) : Allocation → Option MemoryObject
  | .buffer _ | .image _ _ _ => some (.memory ⟨state.store.memories.length⟩)
  | .region _ => some (.region ⟨state.store.regions.length⟩)
  | .sampler _ _ => none

/-- The content that an object has at first, if it has memory. -/
def bytes? (table : ArgumentTable) : Allocation → Option Bytes
  | .buffer group => some (seeded table group.positions)
  | .region group => some (seeded table group.positions)
  | .image _ _ preState => some preState
  | .sampler _ _ => none

theorem object?_of_mem_members (member : (position, value) ∈ object.members state) :
    value.object? = object.slot? state := by
  cases object with
  | buffer group =>
      obtain ⟨_, _, found⟩ := List.mem_map.mp member
      cases found
      rfl
  | region group =>
      obtain ⟨_, _, found⟩ := List.mem_map.mp member
      cases found
      rfl
  | image other descriptor preState =>
      cases List.mem_singleton.mp member
      rfl
  | sampler other descriptor =>
      cases List.mem_singleton.mp member
      rfl

/-- When all objects are there, the memory of each still has its first content. -/
theorem bytes?_slot? {after : List Allocation} {slot : MemoryObject}
    (made : object.slot? (state.withObjects table before) = some slot) :
    (state.withObjects table (before ++ object :: after)).store.bytes? slot =
      object.bytes? table := by
  cases object <;> cases made <;>
    simp [withObjects, Store.bytes?, Store.memory?, Store.region?, memory?, region?,
      Allocation.bytes?, List.filterMap_cons]

theorem slot?_ne_of_later {slot : MemoryObject} (more : List Allocation) (later : Allocation)
    (made : object.slot? (state.withObjects table before) = some slot) :
    later.slot? (state.withObjects table (before ++ object :: more)) ≠ some slot := by
  cases object <;> cases made <;> cases later <;>
    simp [slot?, withObjects, memory?, region?, List.filterMap_cons]

/-- An object is determined by its memory. -/
theorem eq_of_slot?_eq {first second : List Allocation} {left right : Allocation}
    {leftRest rightRest : List Allocation} {slot : MemoryObject}
    (split : first ++ left :: leftRest = second ++ right :: rightRest)
    (left_made : left.slot? (state.withObjects table first) = some slot)
    (right_made : right.slot? (state.withObjects table second) = some slot) :
    first = second ∧ left = right ∧ leftRest = rightRest := by
  rcases List.append_eq_append_iff.mp split with ⟨gap, rfl, rest_eq⟩ | ⟨gap, rfl, rest_eq⟩
  · cases gap with
    | nil => simpa using rest_eq
    | cons head gap =>
        obtain rfl := (List.cons.inj rest_eq).1
        exact absurd right_made (slot?_ne_of_later gap right left_made)
  · cases gap with
    | nil => simpa using And.imp Eq.symm Eq.symm (List.cons.inj rest_eq)
    | cons head gap =>
        obtain rfl := (List.cons.inj rest_eq).1
        exact absurd left_made (slot?_ne_of_later gap left right_made)

end Allocation

end LaunchReplay
