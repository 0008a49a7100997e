import LaunchReplay.Proofs.Replay.Binding
import Mathlib.Order.Bounds.Basic

/-!
# Outputs that are read back

The object behind an output is at least as long as the content of its position before the launch,
and no launch changes the length of an object. So all outputs can be read back at any time, one for
each argument with memory and each as long as it was.
-/

namespace LaunchReplay

open Simulator

variable {κ : Type}

/-! ## Slots that can be read -/

/-- Whether the object of a slot is there and long enough. -/
def OutputSlot.Readable (store : Store) (slot : OutputSlot) : Prop :=
  ∃ bytes, store.bytes? slot.source.object = some bytes ∧ slot.length ≤ bytes.length

namespace Output

/-- The output that is read back from some memory for a slot. -/
def ofSlot (store : Store) (slot : OutputSlot) : Output :=
  ⟨slot.position, slot.kind, ((store.bytes? slot.source.object).getD []).take slot.length⟩

theorem length_ofSlot {store : Store} {slot : OutputSlot} (readable : slot.Readable store) :
    (ofSlot store slot).bytes.length = slot.length := by
  obtain ⟨bytes, held, fits⟩ := readable
  simp [ofSlot, held, fits]

theorem read_request_of_readable {store : Store} {slot : OutputSlot}
    (readable : slot.Readable store) :
    store.read slot.request = .ok (ofSlot store slot).bytes := by
  obtain ⟨bytes, held, fits⟩ := readable
  have read : store.read slot.request = .ok (bytes.take slot.length) :=
    Store.read_of_bytes? held fits
  rw [read, ofSlot, held]
  rfl

/-- Slots that can each be read are all read back, and the device stays as it is. -/
theorem readBack_of_readable {state : Simulator κ} {slots : List OutputSlot}
    (readable : ∀ slot ∈ slots, slot.Readable state.store) :
    readBack slots state = (.ok (slots.map (ofSlot state.store)), state) := by
  have reads : List.Forall₂ (fun request content => state.store.read request = .ok content)
      (slots.map (·.request)) (slots.map fun slot => (ofSlot state.store slot).bytes) := by
    rw [List.forall₂_map_left_iff, List.forall₂_map_right_iff, List.forall₂_same]
    exact fun slot slot_mem => read_request_of_readable (readable slot slot_mem)
  have filled := Store.fill_of_forall_read reads
  have answered : state.readBack (slots.map (·.request)) =
      (.ok (slots.map fun slot => (ofSlot state.store slot).bytes), state) := by
    rw [Simulator.readBack, filled]
  refine DeviceM.bind_ok.mpr ⟨_, state, DeviceM.ask_ok.mpr answered, ?_⟩
  rw [List.zipWith_map_right, List.zipWith_self]
  rfl

end Output

theorem OutputSlot.Readable.of_sameShape {before after : Store} {slot : OutputSlot}
    (readable : slot.Readable before) (same : before.SameShape after) : slot.Readable after := by
  obtain ⟨bytes, held, fits⟩ := readable
  have lengths := same.length slot.source.object
  rw [held] at lengths
  obtain ⟨other, other_held, length_eq⟩ := Option.map_eq_some_iff.mp lengths
  exact ⟨other, other_held, length_eq ▸ fits⟩

/-! ## Objects long enough for their positions -/

theorem isGreatest_longest {table : ArgumentTable} {positions : List Nat}
    (nonempty : positions ≠ []) :
    IsGreatest {length | ∃ position ∈ positions,
        (ArgumentTable.preState table position).length = length}
      (Bindings.longest table positions) := by
  have lengths_nonempty :
      (positions.map fun position => (ArgumentTable.preState table position).length) ≠ [] := by
    simpa using nonempty
  have longest_eq : Bindings.longest table positions = List.max _ lengths_nonempty := by
    rw [Bindings.longest, List.foldl_max_eq_max lengths_nonempty, Nat.zero_max]
  refine ⟨?_, ?_⟩
  · have attained := List.max_mem lengths_nonempty
    rw [← longest_eq] at attained
    simpa using attained
  · rintro length ⟨position, inside, rfl⟩
    rw [longest_eq]
    have listed : (ArgumentTable.preState table position).length ∈
        positions.map fun position => (ArgumentTable.preState table position).length :=
      List.mem_map_of_mem inside
    exact List.le_max_of_mem listed

namespace Allocation

variable {table : ArgumentTable} {plan : AliasPlan} {state : Simulator κ}
  {before : List Allocation} {object : Allocation} {position : Nat} {value : BoundValue}

theorem length_seeded {positions : List Nat} (inside : position ∈ positions) :
    (ArgumentTable.preState table position).length ≤ (seeded table positions).length := by
  have within : (ArgumentTable.preState table position).length ≤ Bindings.longest table positions :=
    (isGreatest_longest (List.ne_nil_of_mem inside)).2 ⟨position, inside, rfl⟩
  rw [seeded, Bytes.length_extendTo]
  exact within.trans (Nat.le_max_left _ _)

/-- An image that is made for a position is that of the argument there. -/
theorem image_held {place : Nat} {descriptor : ImageDescriptor} {preState : Bytes}
    (made : .image place descriptor preState ∈ all plan table) :
    table.get? place = some (.image descriptor preState) := by
  have own : .image place descriptor preState ∈ table.entries.filterMap ofEntry? := by
    simpa [all] using made
  obtain ⟨⟨other, argument⟩, entry_mem, entry_made⟩ := List.mem_filterMap.mp own
  cases argument <;> cases entry_made
  exact PositionMap.get?_eq_some_iff.mpr entry_mem

/-- The memory behind a position, once all objects are there: as long at least as the content of
the position before the launch. -/
theorem Owns.exists_bytes {slot : MemoryObject}
    (owns : Owns table state (all plan table) before object position value)
    (behind : value.object? = some slot) :
    ∃ bytes, object.bytes? table = some bytes ∧
      (state.withObjects table (all plan table)).store.bytes? slot = some bytes ∧
        (ArgumentTable.preState table position).length ≤ bytes.length := by
  have made := (object?_of_mem_members owns.bound).symm.trans behind
  obtain ⟨after, split, _⟩ := owns.last
  have held : (state.withObjects table (all plan table)).store.bytes? slot =
      object.bytes? table := by
    rw [split]
    exact bytes?_slot? made
  have inside := owns.position_mem
  have object_mem := owns.mem
  cases object with
  | buffer group => exact ⟨_, rfl, held, length_seeded inside⟩
  | region group => exact ⟨_, rfl, held, length_seeded inside⟩
  | image place descriptor preState =>
      obtain rfl : position = place := by simpa [positions] using inside
      have own : ArgumentTable.preState table position = preState := by
        rw [ArgumentTable.preState, image_held object_mem]
        rfl
      exact ⟨preState, rfl, held, own ▸ Nat.le_refl _⟩
  | sampler place descriptor => cases made

end Allocation

/-! ## Slots of bound arguments -/

namespace Bindings

variable {table : ArgumentTable} {plan : AliasPlan} {kernel : Handle .kernel}
  {before after : Simulator κ} {values : PositionMap BoundValue} {position : Nat}
  {value : BoundValue} {slot : OutputSlot} {argument : Argument}

theorem slot?_eq_some (made : slot? table (position, value) = some slot) :
    slot.position = position ∧ value.object? = some slot.source.object ∧
      slot.length = (ArgumentTable.preState table position).length := by
  cases value <;> cases made <;> exact ⟨rfl, rfl, rfl⟩

/-- A value with memory is that of an object. -/
theorem exists_owns_of_object? {object : MemoryObject}
    (supplied : Supplied table plan before position argument value)
    (behind : value.object? = some object) :
    ∃ earlier owner, Allocation.Owns table before (Allocation.all plan table) earlier owner position
      value := by
  cases supplied with
  | scalar bytes => cases behind
  | localMemory size => cases behind
  | shared _ _ owns => exact ⟨_, _, owns⟩
  | image owns => exact ⟨_, _, owns⟩
  | sampler owns => exact ⟨_, _, owns⟩

/-- An argument with memory has a slot of its kind, and no other argument has one. -/
theorem slot?_of_supplied (supplied : Supplied table plan before position argument value) :
    (argument.hasOutput = false ∧ slot? table (position, value) = none) ∨
      argument.hasOutput = true ∧ ∃ slot, slot? table (position, value) = some slot ∧
        (slot.kind = .image ↔ argument.kind = .image) := by
  cases supplied with
  | scalar bytes => exact .inl ⟨rfl, rfl⟩
  | localMemory size => exact .inl ⟨rfl, rfl⟩
  | sampler owns =>
      cases List.mem_singleton.mp owns.bound
      exact .inl ⟨rfl, rfl⟩
  | image owns =>
      cases List.mem_singleton.mp owns.bound
      exact .inr ⟨rfl, _, rfl, by simp [Argument.kind]⟩
  | @shared argument value earlier object sharable grouped owns =>
      have output : argument.hasOutput = true := by
        cases argument <;> simp_all [Argument.kind, Argument.hasOutput, Argument.preState?]
      have plain : argument.kind ≠ .image := by rcases sharable with kind | kind <;> simp [kind]
      refine .inr ⟨output, ?_⟩
      rcases List.mem_append.mp grouped with buffers | regions
      · obtain ⟨group, _, rfl⟩ := List.mem_map.mp buffers
        obtain ⟨_, _, found⟩ := List.mem_map.mp owns.bound
        cases found
        exact ⟨_, rfl, by simp [plain]⟩
      · obtain ⟨group, _, rfl⟩ := List.mem_map.mp regions
        obtain ⟨_, _, found⟩ := List.mem_map.mp owns.bound
        cases found
        exact ⟨_, rfl, by simp [plain]⟩

theorem mem_outputs_iff :
    slot ∈ values.entries.filterMap (slot? table) ↔
      ∃ value, values.get? slot.position = some value ∧
        slot? table (slot.position, value) = some slot := by
  rw [List.mem_filterMap]
  constructor
  · rintro ⟨⟨position, value⟩, value_mem, made⟩
    obtain ⟨rfl, _⟩ := slot?_eq_some made
    exact ⟨value, PositionMap.get?_eq_some_iff.mpr value_mem, made⟩
  · rintro ⟨value, found, made⟩
    exact ⟨_, PositionMap.get?_eq_some_iff.mp found, made⟩

theorem outputs_ascending (table : ArgumentTable) (values : PositionMap BoundValue) :
    ((values.entries.filterMap (slot? table)).map (·.position)).Pairwise (· < ·) := by
  rw [List.pairwise_map, List.pairwise_filterMap]
  refine values.ascending.imp fun {left right} below slot made other other_made => ?_
  rw [(slot?_eq_some made).1, (slot?_eq_some other_made).1]
  exact below

/-- Right after binding, and after any launches, every output can be read back. -/
theorem Bound.readable {later : Simulator κ} (bound : Bound table plan kernel before values after)
    (steady : Steady after later)
    (slot_mem : slot ∈ values.entries.filterMap (slot? table)) : slot.Readable later.store := by
  obtain ⟨value, found, made⟩ := mem_outputs_iff.mp slot_mem
  obtain ⟨argument, _, supplied⟩ := bound.exists_argument found
  obtain ⟨_, behind, length_eq⟩ := slot?_eq_some made
  obtain ⟨earlier, owner, owns⟩ := exists_owns_of_object? supplied behind
  obtain ⟨bytes, _, held, fits⟩ := owns.exists_bytes behind
  have readable : slot.Readable after.store := by
    rw [bound.after_eq]
    exact ⟨bytes, held, length_eq ▸ fits⟩
  exact readable.of_sameShape steady.shape

/-! ## Counting objects -/

theorem length_filter_hasMemory (objects : List Allocation) (table : ArgumentTable) :
    (objects.filter Allocation.hasMemory).length =
      (objects.filterMap (Allocation.memory? table)).length +
        (objects.filterMap (Allocation.region? table)).length := by
  induction objects with
  | nil => rfl
  | cons object rest induction =>
      rw [List.filter_cons, List.filterMap_cons, List.filterMap_cons]
      cases object <;>
        simp [Allocation.hasMemory, Allocation.memory?, Allocation.region?, induction] <;> omega

theorem length_filter_hasMemory_all (plan : AliasPlan) (table : ArgumentTable) :
    ((Allocation.all plan table).filter Allocation.hasMemory).length =
      plan.allocationCount + table.entries.countP fun entry => entry.2.kind = .image := by
  have groups : (Allocation.grouped plan).filter Allocation.hasMemory =
      Allocation.grouped plan := by
    apply List.filter_eq_self.mpr
    intro object grouped
    rcases List.mem_append.mp grouped with buffers | regions
    · obtain ⟨group, _, rfl⟩ := List.mem_map.mp buffers
      rfl
    · obtain ⟨group, _, rfl⟩ := List.mem_map.mp regions
      rfl
  have owned (entries : List (Nat × Argument)) :
      ((entries.filterMap Allocation.ofEntry?).filter Allocation.hasMemory).length =
        entries.countP fun entry => entry.2.kind = .image := by
    induction entries with
    | nil => rfl
    | cons entry rest induction =>
        obtain ⟨position, argument⟩ := entry
        rw [List.countP_cons, ← induction, List.filterMap_cons]
        cases argument <;>
          simp [Allocation.ofEntry?, Allocation.hasMemory, Argument.kind, List.filter_cons]
  change ((Allocation.grouped plan ++ _).filter _).length = _
  rw [List.filter_append, groups, List.length_append, owned, AliasPlan.allocationCount,
    Allocation.grouped]
  simp

end Bindings

/-! ## All outputs after any launches -/

/-- Outputs that are one for each argument with memory, each as long as its content before the
launch. -/
structure Output.Complete (table : ArgumentTable) (outputs : List Output) : Prop where
  /-- No position occurs twice or out of order. -/
  ascending : (outputs.map (·.position)).Pairwise (· < ·)
  /-- The positions are those of buffers, regions and images. -/
  positions : ∀ position, position ∈ outputs.map (·.position) ↔
    ∃ argument, table.get? position = some argument ∧
      (argument.kind = .buffer ∨ argument.kind = .svm ∨ argument.kind = .image)
  /-- An output is that of an image exactly if the argument is one. -/
  image : ∀ output ∈ outputs, output.kind = .image ↔
    (table.get? output.position).map Argument.kind = some .image
  /-- Every output is as long as the content of its position before the launch. -/
  length : ∀ output ∈ outputs,
    output.bytes.length = (ArgumentTable.preState table output.position).length

theorem Argument.hasOutput_iff {argument : Argument} :
    argument.hasOutput = true ↔
      argument.kind = .buffer ∨ argument.kind = .svm ∨ argument.kind = .image := by
  cases argument <;> simp [hasOutput, preState?, kind]

namespace Bindings

variable {table : ArgumentTable} {plan : AliasPlan} {kernel : Handle .kernel}
  {before after later : Simulator κ} {values : PositionMap BoundValue}

theorem Bound.complete (bound : Bound table plan kernel before values after)
    (steady : Steady after later) :
    Output.Complete table
      ((values.entries.filterMap (slot? table)).map (Output.ofSlot later.store)) where
  ascending := by
    rw [List.map_map]
    exact outputs_ascending table values
  positions position := by
    rw [List.map_map]
    constructor
    · intro listed
      obtain ⟨slot, slot_mem, rfl⟩ := List.mem_map.mp listed
      obtain ⟨value, found, made⟩ := mem_outputs_iff.mp slot_mem
      obtain ⟨argument, held, supplied⟩ := bound.exists_argument found
      refine ⟨argument, held, Argument.hasOutput_iff.mp ?_⟩
      rcases slot?_of_supplied supplied with ⟨_, unmade⟩ | ⟨output, _⟩
      · cases unmade.symm.trans made
      · exact output
    · rintro ⟨argument, held, output⟩
      obtain ⟨value, found, supplied⟩ := bound.exists_value held
      rcases slot?_of_supplied supplied with ⟨silent, _⟩ | ⟨_, slot, made, _⟩
      · cases silent.symm.trans (Argument.hasOutput_iff.mpr output)
      · obtain ⟨rfl, _⟩ := slot?_eq_some made
        exact List.mem_map.mpr ⟨slot, mem_outputs_iff.mpr ⟨value, found, made⟩, rfl⟩
  image output output_mem := by
    obtain ⟨slot, slot_mem, rfl⟩ := List.mem_map.mp output_mem
    obtain ⟨value, found, made⟩ := mem_outputs_iff.mp slot_mem
    obtain ⟨argument, held, supplied⟩ := bound.exists_argument found
    rcases slot?_of_supplied supplied with ⟨_, unmade⟩ | ⟨_, other, other_made, image⟩
    · cases unmade.symm.trans made
    · obtain rfl := Option.some.inj (made.symm.trans other_made)
      simpa [Output.ofSlot, held] using image
  length output output_mem := by
    obtain ⟨slot, slot_mem, rfl⟩ := List.mem_map.mp output_mem
    obtain ⟨value, _, made⟩ := mem_outputs_iff.mp slot_mem
    rw [Output.length_ofSlot (bound.readable steady slot_mem)]
    exact (slot?_eq_some made).2.2

/-- Whatever plan the arguments were bound by, after any launches all outputs can be read back, one
for each argument with memory and each as long as its content before the launch. Binding made one
object for each group and each image. -/
theorem readBack_after_launches {bindings : Bindings} {bound : Simulator κ}
    (created : create table plan kernel before = (.ok bindings, bound)) (launched : Handle .kernel)
    (geometry : Geometry) (repetitions : Nat) :
    (∃ outputs,
      Output.readBack bindings.outputs
          (Output.launchTimes launched geometry repetitions bound).2 =
        (.ok outputs, (Output.launchTimes launched geometry repetitions bound).2) ∧
      Output.Complete table outputs) ∧
    bindings.bound = table.size ∧
    bindings.allocations =
      plan.allocationCount + table.entries.countP (fun entry => entry.2.kind = .image) ∧
    bound.store.memories.length + bound.store.regions.length =
      before.store.memories.length + before.store.regions.length + bindings.allocations := by
  obtain ⟨values, binding, rfl⟩ := create_ok created
  have steady : Steady bound (Output.launchTimes launched geometry repetitions bound).2 :=
    Output.launchTimes_steady repetitions bound
  refine ⟨⟨_, ?_, binding.complete steady⟩, ?_, length_filter_hasMemory_all plan table, ?_⟩
  · exact Output.readBack_of_readable fun slot => binding.readable steady
  · have positions_eq := congrArg List.length binding.positions_eq
    simpa [PositionMap.positions, PositionMap.size] using positions_eq
  · rw [length_filter_hasMemory _ table, binding.after_eq]
    simp only [withArguments, withObjects, List.length_append]
    omega

/-- Two buffers with one token, and one argument of each other kind. -/
def mixedTable : ArgumentTable :=
  .ofList
    [(0, .buffer (some [7]) [1, 2, 3]), (1, .buffer (some [7]) [4]),
      (2, .image ⟨.image1D, ⟨0x10B0, 0x10D2⟩, .line 2⟩ [8, 9]), (3, .scalar [5]),
      (4, .svm none [6, 6] 1), (5, .sampler ⟨true, .clamp, .linear⟩), (6, .localMemory 64)]

/-- A plan that lists buffers twice, one of them also as a region, and an image as a buffer. -/
def crossedPlan : AliasPlan :=
  ⟨[⟨[0, 2]⟩, ⟨[1, 0]⟩], [⟨[(4, 0), (1, 1)]⟩], []⟩

/-- A device with one kernel, which writes a byte into the memory of two positions. -/
def stampingDevice : Simulator Unit :=
  { Simulator.new
      { Setup.plain with
        hostKernel? := fun _ => some fun _ => .write 0 0 [255] (.write 2 1 [254] (.halt ())) } ()
    with kernels := [⟨"f", .empty⟩] }

theorem readBack_mixedTable_after_two_launches :
    ∃ bindings bound,
      create mixedTable crossedPlan ⟨0⟩ stampingDevice = (.ok bindings, bound) ∧
      (∃ outputs,
        Output.readBack bindings.outputs
            (Output.launchTimes ⟨0⟩ ⟨[8], [0], [0]⟩ 2 bound).2 =
          (.ok outputs, (Output.launchTimes ⟨0⟩ ⟨[8], [0], [0]⟩ 2 bound).2) ∧
        Output.Complete mixedTable outputs) ∧
      bindings.bound = 7 ∧ bindings.allocations = 3 + 1 ∧
      bound.store.memories.length + bound.store.regions.length = 0 + 0 + bindings.allocations := by
  have accepted : (create mixedTable crossedPlan ⟨0⟩ stampingDevice).1.isOk := by decide +kernel
  obtain ⟨bindings, bound, created⟩ := DeviceM.exists_of_isOk accepted
  exact ⟨bindings, bound, created, readBack_after_launches created ⟨0⟩ ⟨[8], [0], [0]⟩ 2⟩

end Bindings

end LaunchReplay
