import LaunchReplay.Proofs.AliasPlan
import LaunchReplay.Proofs.Replay.Outputs

/-!
# Sharing on the device is sharing in the capture

Bound by a resolved plan, two positions are behind one object exactly if they shared an allocation
when the launch was captured. Therefore aliased outputs are read back alike after any launches, and
a launch that writes through positions that do not share with an output leaves that output alone.
-/

namespace LaunchReplay

open Simulator

variable {κ : Type}

namespace Allocation

variable {table : ArgumentTable} {plan : AliasPlan} {state : Simulator κ}
  {objects before otherBefore : List Allocation} {object other : Allocation}
  {position place : Nat} {value otherValue : BoundValue}

/-- Two objects that are each made for both positions, and are the last for one of them, are the
same object. -/
theorem Owns.eq_of_mem (owns : Owns table state objects before object position value)
    (other_owns : Owns table state objects otherBefore other place otherValue)
    (crossed : position ∈ other.positions) (inside : place ∈ object.positions) :
    before = otherBefore ∧ object = other := by
  obtain ⟨after, split, last⟩ := owns.last
  obtain ⟨otherAfter, other_split, other_last⟩ := other_owns.last
  rcases List.append_eq_append_iff.mp (split.symm.trans other_split) with
    ⟨gap, rfl, rest_eq⟩ | ⟨gap, rfl, rest_eq⟩
  · cases gap with
    | nil => simpa using (List.cons.inj rest_eq).1
    | cons head gap =>
        obtain ⟨rfl, rfl⟩ := List.cons.inj rest_eq
        exact absurd crossed (last other (by simp))
  · cases gap with
    | nil => simpa using (List.cons.inj rest_eq).1.symm
    | cons head gap =>
        obtain ⟨rfl, rfl⟩ := List.cons.inj rest_eq
        exact absurd inside (other_last object (by simp))

theorem isAliasClass_singleton {argument : Argument} (held : table.get? position = some argument)
    (tokenless : argument.token? = none) : table.IsAliasClass [position] where
  ascending := List.pairwise_singleton _ _
  nonempty := by simp
  closed place place_mem other := by
    obtain rfl : place = position := by simpa using place_mem
    rw [List.mem_singleton, ArgumentTable.Shares, or_iff_left]
    intro aliased
    obtain ⟨token, carried, _⟩ := ArgumentTable.aliased_iff.mp aliased
    simp [held, tokenless] at carried

/-- Every object of a resolved plan is made for exactly one class of sharing positions. -/
theorem isAliasClass_of_mem_all (made : object ∈ all (AliasPlan.resolve table) table) :
    table.IsAliasClass object.positions := by
  rcases List.mem_append.mp made with grouped | own
  · rcases List.mem_append.mp grouped with buffers | regions
    · obtain ⟨group, group_mem, rfl⟩ := List.mem_map.mp buffers
      exact AliasPlan.isAliasClass_bufferGroup group_mem
    · obtain ⟨group, group_mem, rfl⟩ := List.mem_map.mp regions
      exact AliasPlan.isAliasClass_svmGroup group_mem
  · obtain ⟨⟨position, argument⟩, entry_mem, entry_made⟩ := List.mem_filterMap.mp own
    have held := PositionMap.get?_eq_some_iff.mpr entry_mem
    rw [positions_of_own entry_made]
    cases argument <;> cases entry_made <;> exact isAliasClass_singleton held rfl

end Allocation

theorem ArgumentTable.Shares.symm {table : ArgumentTable} {position other : Nat}
    (shares : table.Shares position other) : table.Shares other position :=
  shares.imp Eq.symm Aliased.symm

/-- Arguments that carry a token are not bound as they were captured. -/
theorem Supplied.exists_owns_of_token {table : ArgumentTable} {plan : AliasPlan}
    {before : Simulator κ} {position : Nat} {argument : Argument} {value : BoundValue}
    (supplied : Supplied table plan before position argument value)
    (carried : argument.token?.isSome) :
    ∃ earlier owner, Allocation.Owns table before (Allocation.all plan table) earlier owner position
      value := by
  cases supplied with
  | scalar bytes => cases carried
  | localMemory size => cases carried
  | shared _ _ owns => exact ⟨_, _, owns⟩
  | image owns => cases carried
  | sampler owns => cases carried

namespace Bindings

variable {table : ArgumentTable} {kernel : Handle .kernel} {before after : Simulator κ}
  {values : PositionMap BoundValue} {position other : Nat} {left right : BoundValue}
  {object : MemoryObject}

/-- Positions that are bound to one object share an allocation. -/
theorem Bound.shares_of_object?
    (bound : Bound table (AliasPlan.resolve table) kernel before values after)
    (found : values.get? position = some left) (other_found : values.get? other = some right)
    (behind : left.object? = some object) (other_behind : right.object? = some object) :
    table.Shares position other := by
  obtain ⟨_, _, supplied⟩ := bound.exists_argument found
  obtain ⟨_, _, other_supplied⟩ := bound.exists_argument other_found
  obtain ⟨_, owner, owns⟩ := exists_owns_of_object? supplied behind
  obtain ⟨_, otherOwner, other_owns⟩ := exists_owns_of_object? other_supplied other_behind
  have made := (Allocation.object?_of_mem_members owns.bound).symm.trans behind
  have other_made := (Allocation.object?_of_mem_members other_owns.bound).symm.trans other_behind
  obtain ⟨_, split, _⟩ := owns.last
  obtain ⟨_, other_split, _⟩ := other_owns.last
  obtain ⟨_, rfl, _⟩ :=
    Allocation.eq_of_slot?_eq (split.symm.trans other_split) made other_made
  have alike := Allocation.isAliasClass_of_mem_all owns.mem
  exact (alike.closed position owns.position_mem other).mp other_owns.position_mem

/-- Positions that share an allocation are bound to one object. -/
theorem Bound.object?_eq_of_shares
    (bound : Bound table (AliasPlan.resolve table) kernel before values after)
    (found : values.get? position = some left) (other_found : values.get? other = some right)
    (shares : table.Shares position other) : left.object? = right.object? := by
  rcases shares with rfl | aliased
  · rw [Option.some.inj (found.symm.trans other_found)]
  · obtain ⟨token, carried, other_carried⟩ := ArgumentTable.aliased_iff.mp aliased
    obtain ⟨argument, held, supplied⟩ := bound.exists_argument found
    obtain ⟨otherArgument, other_held, other_supplied⟩ := bound.exists_argument other_found
    rw [held] at carried
    rw [other_held] at other_carried
    obtain ⟨_, owner, owns⟩ := supplied.exists_owns_of_token (by simp_all)
    obtain ⟨_, otherOwner, other_owns⟩ := other_supplied.exists_owns_of_token (by simp_all)
    have alike := Allocation.isAliasClass_of_mem_all owns.mem
    have other_alike := Allocation.isAliasClass_of_mem_all other_owns.mem
    have inside : other ∈ owner.positions :=
      (alike.closed position owns.position_mem other).mpr (.inr aliased)
    have crossed : position ∈ otherOwner.positions :=
      (other_alike.closed other other_owns.position_mem position).mpr (.inr aliased.symm)
    obtain ⟨rfl, rfl⟩ := owns.eq_of_mem other_owns crossed inside
    rw [Allocation.object?_of_mem_members owns.bound,
      Allocation.object?_of_mem_members other_owns.bound]

variable {slot otherSlot : OutputSlot}

/-- Two outputs are those of one object exactly if their positions share an allocation. -/
theorem Bound.source_eq_iff
    (bound : Bound table (AliasPlan.resolve table) kernel before values after)
    (slot_mem : slot ∈ values.entries.filterMap (slot? table))
    (other_mem : otherSlot ∈ values.entries.filterMap (slot? table)) :
    slot.source.object = otherSlot.source.object ↔
      table.Shares slot.position otherSlot.position := by
  obtain ⟨left, found, made⟩ := mem_outputs_iff.mp slot_mem
  obtain ⟨right, other_found, other_made⟩ := mem_outputs_iff.mp other_mem
  have behind := (slot?_eq_some made).2.1
  have other_behind := (slot?_eq_some other_made).2.1
  constructor
  · intro same
    exact bound.shares_of_object? found other_found behind (same ▸ other_behind)
  · intro shares
    have same := bound.object?_eq_of_shares found other_found shares
    rw [behind, other_behind] at same
    exact Option.some.inj same

/-- A kernel that had nothing bound to it has the values of the table, and keeps them. -/
theorem Bound.kernel_eq {plan : AliasPlan} {name : String} {later : Simulator κ}
    (bound : Bound table plan kernel before values after)
    (fresh : before.kernels[kernel.index]? = some ⟨name, .empty⟩) (steady : Steady after later) :
    later.kernels[kernel.index]? = some ⟨name, values⟩ := by
  rw [steady.kernels, bound.after_eq]
  exact kernels_withArguments values fresh

/-- Outputs of one object are alike as far as both reach. -/
theorem take_ofSlot_eq (store : Store)
    (same : slot.source.object = otherSlot.source.object) :
    (Output.ofSlot store slot).bytes.take (min slot.length otherSlot.length) =
      (Output.ofSlot store otherSlot).bytes.take (min slot.length otherSlot.length) := by
  simp only [Output.ofSlot, same, List.take_take]
  congr 1
  omega

/-- A launch that writes through positions that do not share with an output leaves it alone. -/
theorem Bound.ofSlot_launch {name : String} {later : Simulator κ} {geometry : Geometry}
    (bound : Bound table (AliasPlan.resolve table) kernel before values after)
    (fresh : before.kernels[kernel.index]? = some ⟨name, .empty⟩) (steady : Steady after later)
    (slot_mem : slot ∈ values.entries.filterMap (slot? table))
    (untouched : ∀ place ∈ later.written ⟨name, values⟩ geometry,
      ¬ table.Shares slot.position place) :
    Output.ofSlot (later.launch kernel geometry).2.store slot = Output.ofSlot later.store slot := by
  obtain ⟨value, found, made⟩ := mem_outputs_iff.mp slot_mem
  have behind := (slot?_eq_some made).2.1
  have unchanged : (later.launch kernel geometry).2.store.bytes? slot.source.object =
      later.store.bytes? slot.source.object := by
    refine bytes?_launch_of_untouched (bound.kernel_eq fresh steady) ?_
    intro place written other other_found other_behind
    exact untouched place written
      (bound.shares_of_object? found other_found behind other_behind)
  rw [Output.ofSlot, Output.ofSlot, unchanged]

/-- Sharing among the outputs of bound arguments as it was in the capture. -/
structure ReplicatesAliasing (table : ArgumentTable) (kernel : Handle .kernel)
    (slots : List OutputSlot) (bound : Simulator κ) : Prop where
  /-- Two outputs are those of one object exactly if their arguments are aliased. -/
  shared : ∀ slot ∈ slots, ∀ other ∈ slots, slot.position ≠ other.position →
    (slot.source.object = other.source.object ↔ table.Aliased slot.position other.position)
  /-- After any launches aliased outputs are read back alike, as far as both reach; wholly alike if
  their contents before the launch had one length. -/
  alike : ∀ geometry repetitions,
    let launched := (Output.launchTimes kernel geometry repetitions bound).2
    ∃ outputs, Output.readBack slots launched = (.ok outputs, launched) ∧
      Output.Complete table outputs ∧
      ∀ left ∈ outputs, ∀ right ∈ outputs, table.Aliased left.position right.position →
        left.bytes.take (min left.bytes.length right.bytes.length) =
            right.bytes.take (min left.bytes.length right.bytes.length) ∧
          ((ArgumentTable.preState table left.position).length =
              (ArgumentTable.preState table right.position).length →
            left.bytes = right.bytes)
  /-- A launch that writes neither through a position nor through one aliased with it leaves the
  output there as it was. -/
  untouched : ∀ geometry repetitions further position,
    let launched := (Output.launchTimes kernel geometry repetitions bound).2
    let next := (launched.launch kernel further).2
    (∀ object, launched.kernels[kernel.index]? = some object →
      ∀ place ∈ launched.written object further,
        place ≠ position ∧ ¬ table.Aliased position place) →
    ∃ outputs later, Output.readBack slots launched = (.ok outputs, launched) ∧
      Output.readBack slots next = (.ok later, next) ∧
      ∀ output, output.position = position → (output ∈ later ↔ output ∈ outputs)

theorem Bound.alike
    (bound : Bound table (AliasPlan.resolve table) kernel before values after)
    {later : Simulator κ} (steady : Steady after later) {left right : Output}
    (left_mem : left ∈ (values.entries.filterMap (slot? table)).map (Output.ofSlot later.store))
    (right_mem : right ∈ (values.entries.filterMap (slot? table)).map (Output.ofSlot later.store))
    (aliased : table.Aliased left.position right.position) :
    left.bytes.take (min left.bytes.length right.bytes.length) =
      right.bytes.take (min left.bytes.length right.bytes.length) := by
  obtain ⟨slot, slot_mem, rfl⟩ := List.mem_map.mp left_mem
  obtain ⟨other, other_mem, rfl⟩ := List.mem_map.mp right_mem
  have same := (bound.source_eq_iff slot_mem other_mem).mpr (.inr aliased)
  rw [Output.length_ofSlot (bound.readable steady slot_mem),
    Output.length_ofSlot (bound.readable steady other_mem)]
  exact take_ofSlot_eq later.store same

/-- Arguments that are bound by the resolved plan to a fresh kernel share memory as they did when
the launch was captured, whatever the kernel does and however often it is launched. -/
theorem aliasing_replicated {name : String} {bindings : Bindings} {bound : Simulator κ}
    (fresh : before.kernels[kernel.index]? = some ⟨name, .empty⟩)
    (created : create table (AliasPlan.resolve table) kernel before = (.ok bindings, bound)) :
    ReplicatesAliasing table kernel bindings.outputs bound := by
  obtain ⟨values, binding, rfl⟩ := create_ok created
  have steady (geometry : Geometry) (repetitions : Nat) :
      Steady bound (Output.launchTimes kernel geometry repetitions bound).2 :=
    Output.launchTimes_steady repetitions bound
  refine ⟨?_, ?_, ?_⟩
  · intro slot slot_mem other other_mem apart
    rw [binding.source_eq_iff slot_mem other_mem, ArgumentTable.Shares,
      or_iff_right (Ne.symm apart)]
  · intro geometry repetitions launched
    have complete := binding.complete (steady geometry repetitions)
    refine ⟨_, Output.readBack_of_readable fun slot =>
      binding.readable (steady geometry repetitions), complete, ?_⟩
    intro left left_mem right right_mem aliased
    have alike := binding.alike (steady geometry repetitions) left_mem right_mem aliased
    refine ⟨alike, fun lengths => ?_⟩
    rw [← complete.length left left_mem, ← complete.length right right_mem] at lengths
    rwa [lengths, Nat.min_self, List.take_length, ← lengths, List.take_length] at alike
  · intro geometry repetitions further position launched next untouched
    have next_steady : Steady bound next :=
      (steady geometry repetitions).trans (launched.launch_steady kernel further)
    refine ⟨_, _, Output.readBack_of_readable fun slot =>
      binding.readable (steady geometry repetitions),
      Output.readBack_of_readable fun slot => binding.readable next_steady, ?_⟩
    have kept : ∀ slot ∈ values.entries.filterMap (slot? table), slot.position = position →
        Output.ofSlot next.store slot = Output.ofSlot launched.store slot := by
      rintro slot slot_mem rfl
      apply binding.ofSlot_launch fresh (steady geometry repetitions) slot_mem
      intro place written shares
      obtain ⟨elsewhere, unaliased⟩ :=
        untouched _ (binding.kernel_eq fresh (steady geometry repetitions)) place written
      exact shares.elim elsewhere unaliased
    intro output at_position
    rw [List.mem_map, List.mem_map]
    constructor
    · rintro ⟨slot, slot_mem, rfl⟩
      exact ⟨slot, slot_mem, (kept slot slot_mem at_position).symm⟩
    · rintro ⟨slot, slot_mem, rfl⟩
      exact ⟨slot, slot_mem, kept slot slot_mem at_position⟩

theorem aliasing_of_mixedTable_replicated :
    stampingDevice.kernels[0]? = some ⟨"f", .empty⟩ ∧ mixedTable.Aliased 0 1 ∧
      ∃ bindings bound,
        create mixedTable (AliasPlan.resolve mixedTable) ⟨0⟩ stampingDevice =
          (.ok bindings, bound) ∧
        ReplicatesAliasing mixedTable ⟨0⟩ bindings.outputs bound := by
  have accepted : (create mixedTable (AliasPlan.resolve mixedTable) ⟨0⟩ stampingDevice).1.isOk := by
    decide +kernel
  obtain ⟨bindings, bound, created⟩ := DeviceM.exists_of_isOk accepted
  exact ⟨rfl, ⟨_, _, rfl, rfl, .buffer [7] [1, 2, 3] [4]⟩, bindings, bound, created,
    aliasing_replicated rfl created⟩

end Bindings

end LaunchReplay
