import LaunchReplay.Proofs.Replay.Acquisition
import LaunchReplay.Proofs.Replay.Aliasing
import LaunchReplay.Proofs.Replay.Stages

/-!
# Reconstruction of the captured call

A replay that succeeds launched the captured kernel as often as it was asked to, each time with the
captured index space and the same values: one for each captured argument, plain ones as they were
captured, and the others new objects filled from the contents before the launch.
-/

namespace LaunchReplay

open Simulator

variable {κ : Type}

/-! ## What was created -/

namespace Allocation

variable {table : ArgumentTable} {state : Simulator κ} {before after : List Allocation}
  {object : Allocation}

/-- An object is found under the number of those of its sort that were there before. -/
theorem getElem?_filterMap_of_made {α : Type} {create : Allocation → Option α} {made : α}
    (created : create object = some made) (earlier : List α) :
    (earlier ++ (before ++ object :: after).filterMap create)[
      (earlier ++ before.filterMap create).length]? = some made := by
  simp [created]

end Allocation

theorem ArgumentTable.IsAliasClass.isLeast {table : ArgumentTable} {positions : List Nat}
    (alike : table.IsAliasClass positions) {position : Nat} (inside : position ∈ positions) :
    IsLeast {other | table.Shares position other} (positions.headD 0) := by
  have lowest : positions.headD 0 ∈ positions ∧ ∀ other ∈ positions, positions.headD 0 ≤ other := by
    cases positions with
    | nil => exact absurd rfl alike.nonempty
    | cons head rest =>
        refine ⟨List.mem_cons_self, fun other other_mem => ?_⟩
        rcases List.mem_cons.mp other_mem with rfl | later
        · exact Nat.le_refl _
        · exact Nat.le_of_lt ((List.pairwise_cons.mp alike.ascending).1 other later)
  refine ⟨(alike.closed position inside _).mp lowest.1, fun other shares => ?_⟩
  exact lowest.2 other ((alike.closed position inside other).mpr shares)

theorem ArgumentTable.IsAliasClass.isGreatest {table : ArgumentTable} {positions : List Nat}
    (alike : table.IsAliasClass positions) {position : Nat} (inside : position ∈ positions) :
    IsGreatest {length | ∃ other, table.Shares position other ∧
        (ArgumentTable.preState table other).length = length}
      (Bindings.longest table positions) := by
  have same (other : Nat) : other ∈ positions ↔ table.Shares position other :=
    alike.closed position inside other
  have longest : IsGreatest {length | ∃ other ∈ positions,
      (ArgumentTable.preState table other).length = length} (Bindings.longest table positions) :=
    isGreatest_longest alike.nonempty
  simpa only [same] using longest

/-- Images share with no other position. -/
theorem ArgumentTable.not_aliased_of_image {table : ArgumentTable} {position other : Nat}
    (image : (table.get? position).map Argument.kind = some .image) :
    ¬ table.Aliased position other := by
  intro aliased
  obtain ⟨argument, held, of_kind⟩ := Option.map_eq_some_iff.mp image
  obtain ⟨token, carried, _⟩ := aliased_iff.mp aliased
  rw [held] at carried
  cases argument <;> cases of_kind
  cases carried

/-- The content with which the memory of a position is created: that of the lowest position with
which it shares, zero-extended to the longest among those. -/
def SeededFor (table : ArgumentTable) (position : Nat) (content : Bytes) : Prop :=
  ∃ seed longest, IsLeast {other | table.Shares position other} seed ∧
    IsGreatest {length | ∃ other, table.Shares position other ∧
      (ArgumentTable.preState table other).length = length} longest ∧
    content = (ArgumentTable.preState table seed).extendTo longest

theorem ArgumentTable.IsAliasClass.seededFor {table : ArgumentTable} {positions : List Nat}
    (alike : table.IsAliasClass positions) {position : Nat} (inside : position ∈ positions) :
    SeededFor table position (Allocation.seeded table positions) :=
  ⟨_, _, alike.isLeast inside, alike.isGreatest inside, rfl⟩

/-- How a captured argument is rebuilt on a device: plain values as they are, the others as objects
that were not on the device before. -/
inductive Rebuilt (table : ArgumentTable) (values : PositionMap BoundValue)
    (before bound : Simulator κ) (position : Nat) : Argument → BoundValue → Prop
  /-- A plain value byte for byte. -/
  | scalar (bytes : Bytes) :
      Rebuilt table values before bound position (.scalar bytes) (.scalar bytes)
  /-- Local memory of its size. -/
  | localMemory (size : Nat) :
      Rebuilt table values before bound position (.localMemory size) (.localMemory size)
  /-- A buffer seeded from those that share with it. -/
  | buffer {identity : Option Bytes} {preState content : Bytes} {handle : Handle .memory}
      (fresh : before.store.memory? handle = none)
      (created : bound.store.memory? handle = some ⟨content, none⟩)
      (seeded : SeededFor table position content) :
      Rebuilt table values before bound position (.buffer identity preState) (.buffer handle)
  /-- A region seeded from those that share with it, at the offset of the argument itself. -/
  | svm {identity : Option Bytes} {preState content : Bytes} {offset : Nat}
      {handle : Handle .region} (fresh : before.store.region? handle = none)
      (created : bound.store.region? handle = some content)
      (seeded : SeededFor table position content) :
      Rebuilt table values before bound position (.svm identity preState offset)
        (.svm handle offset)
  /-- An image with its own content, to which no other position is bound. -/
  | image {descriptor : ImageDescriptor} {preState : Bytes} {handle : Handle .memory}
      (fresh : before.store.memory? handle = none)
      (created : bound.store.memory? handle = some ⟨preState, some descriptor⟩)
      (alone : ∀ other value, values.get? other = some value →
        value.object? = some (.memory handle) → other = position) :
      Rebuilt table values before bound position (.image descriptor preState) (.image handle)
  /-- A sampler. -/
  | sampler {descriptor : SamplerDescriptor} {handle : Handle .sampler}
      (fresh : before.samplers[handle.index]? = none)
      (created : bound.samplers[handle.index]? = some descriptor) :
      Rebuilt table values before bound position (.sampler descriptor) (.sampler handle)

namespace Bindings

variable {table : ArgumentTable} {kernel : Handle .kernel} {origin before after : Simulator κ}
  {values : PositionMap BoundValue} {position : Nat} {value : BoundValue} {argument : Argument}

/-- An argument without memory of its own that is bound to the object of a group is a buffer of a
group of buffers, or a region of a group of regions. -/
theorem rebuilt_of_grouped {earlier : List Allocation} {object : Allocation}
    (stored : before.store = origin.store)
    (after_store : after.store =
      (before.withObjects table (Allocation.all (.resolve table) table)).store)
    (held : table.get? position = some argument)
    (grouped : object ∈ Allocation.grouped (.resolve table))
    (owns : Allocation.Owns table before (Allocation.all (.resolve table) table) earlier object
      position value) :
    Rebuilt table values origin after position argument value := by
  obtain ⟨later, split, _⟩ := owns.last
  have seeded :=
    (Allocation.isAliasClass_of_mem_all owns.mem).seededFor owns.position_mem
  rw [split] at after_store
  rcases List.mem_append.mp grouped with buffers | regions
  · obtain ⟨group, group_mem, rfl⟩ := List.mem_map.mp buffers
    obtain ⟨identity, preState, as_buffer⟩ :=
      AliasPlan.buffer_of_mem_bufferGroup group_mem owns.position_mem
    obtain rfl := Option.some.inj (held.symm.trans as_buffer)
    obtain ⟨_, _, found⟩ := List.mem_map.mp owns.bound
    cases found
    refine .buffer ?_ ?_ seeded
    · rw [← stored]
      simp [Store.memory?, withObjects]
    · have created : Allocation.memory? table (.buffer group) =
          some ⟨Allocation.seeded table group.positions, none⟩ := rfl
      rw [after_store]
      exact Allocation.getElem?_filterMap_of_made created before.store.memories
  · obtain ⟨group, group_mem, rfl⟩ := List.mem_map.mp regions
    obtain ⟨⟨place, offset⟩, member_mem, found⟩ := List.mem_map.mp owns.bound
    cases found
    obtain ⟨identity, preState, as_region⟩ := AliasPlan.svm_of_mem_svmGroup group_mem member_mem
    obtain rfl := Option.some.inj (held.symm.trans as_region)
    refine .svm ?_ ?_ seeded
    · rw [← stored]
      simp [Store.region?, withObjects]
    · have created : Allocation.region? table (.region group) =
          some (Allocation.seeded table group.positions) := rfl
      rw [after_store]
      exact Allocation.getElem?_filterMap_of_made created before.store.regions

/-- What an argument is bound to when all objects are there is rebuilt as it was captured. -/
theorem rebuilt_of_supplied
    (supplied : Supplied table (.resolve table) before position argument value)
    (stored : before.store = origin.store) (sampled : before.samplers = origin.samplers)
    (after_store : after.store =
      (before.withObjects table (Allocation.all (.resolve table) table)).store)
    (after_samplers : after.samplers =
      (before.withObjects table (Allocation.all (.resolve table) table)).samplers)
    (held : table.get? position = some argument)
    (alone : argument.kind = .image → ∀ other found object, values.get? other = some found →
      value.object? = some object → found.object? = some object → other = position) :
    Rebuilt table values origin after position argument value := by
  cases supplied with
  | scalar bytes => exact .scalar bytes
  | localMemory size => exact .localMemory size
  | shared _ grouped owns => exact rebuilt_of_grouped stored after_store held grouped owns
  | @image descriptor preState value earlier owns =>
      have created : Allocation.memory? table (.image position descriptor preState) =
        some ⟨preState, some descriptor⟩ := rfl
      obtain ⟨later, split, _⟩ := owns.last
      rw [split] at after_store
      cases List.mem_singleton.mp owns.bound
      refine .image ?_ ?_ fun other found other_found behind =>
        alone rfl other found _ other_found rfl behind
      · rw [← stored]
        simp [Store.memory?, withObjects]
      · rw [after_store]
        exact Allocation.getElem?_filterMap_of_made created before.store.memories
  | @sampler descriptor value earlier owns =>
      have created : (Allocation.sampler position descriptor).sampler? = some descriptor := rfl
      obtain ⟨later, split, _⟩ := owns.last
      cases List.mem_singleton.mp owns.bound
      refine .sampler ?_ ?_
      · rw [← sampled]
        simp [withObjects]
      · rw [after_samplers, split]
        exact Allocation.getElem?_filterMap_of_made created before.samplers

/-- Every argument is rebuilt as it was captured, on a device with the memory and the samplers of
one before the kernel was acquired. -/
theorem Bound.rebuilt (bound : Bound table (.resolve table) kernel before values after)
    (stored : before.store = origin.store) (sampled : before.samplers = origin.samplers)
    (held : table.get? position = some argument) :
    ∃ value, values.get? position = some value ∧
      Rebuilt table values origin after position argument value := by
  obtain ⟨value, found, supplied⟩ := bound.exists_value held
  refine ⟨value, found, rebuilt_of_supplied supplied stored sampled ?_ ?_ held ?_⟩
  · rw [bound.after_eq]
    rfl
  · rw [bound.after_eq]
    rfl
  · intro of_kind other found_value object other_found behind other_behind
    rcases bound.shares_of_object? found other_found behind other_behind with same | aliased
    · exact same
    · exact absurd aliased (ArgumentTable.not_aliased_of_image (by simp [held, of_kind]))

end Bindings

/-! ## The whole replay -/

/-- Reading outputs back leaves a simulated device as it is. -/
theorem Output.readBack_after {slots : List OutputSlot} {outputs : List Output}
    {launched after : Simulator κ}
    (run : readBack slots launched = (.ok outputs, after)) : after = launched := by
  obtain ⟨contents, final, asking, finished⟩ := DeviceM.bind_ok.mp run
  obtain ⟨_, rfl⟩ := DeviceM.pure_ok.mp finished
  have answered : launched.readBack (slots.map (·.request)) = (.ok contents, final) :=
    DeviceM.ask_ok.mp asking
  rw [Simulator.readBack] at answered
  split at answered <;> cases answered
  rfl

/-- A replay that succeeds launched the captured kernel as often as it was asked to, always with the
captured index space and one value for each captured argument, rebuilt as it was captured. -/
theorem Replay.captured_call_reconstructed {config : ReplayConfig} {capture : Capture}
    {tree written : FileTree} {device after : Simulator κ} {summary : ReplaySummary}
    (replayed : replay config capture tree device = (.ok summary, written, after)) :
    ∃ acquired prepared bindings bound arguments,
      capture.program.acquire capture.launch device = (.ok acquired, prepared) ∧
      Bindings.create capture.arguments (.resolve capture.arguments) acquired.kernel prepared =
        (.ok bindings, bound) ∧
      Output.launchTimes acquired.kernel capture.launch.geometry config.repetitions bound =
        (.ok (), after) ∧
      after.launches.toList = device.launches.toList ++
        List.replicate config.repetitions
          ⟨capture.launch.kernelName, capture.launch.geometry, arguments⟩ ∧
      arguments.positions = capture.arguments.positions ∧
      ∀ position argument, capture.arguments.get? position = some argument →
        ∃ value, arguments.get? position = some value ∧
          Rebuilt capture.arguments arguments device bound position argument value := by
  obtain ⟨work, performed, _⟩ := perform_of_replay_ok replayed
  obtain ⟨acquired, prepared, bindings, bound, launched, acquiring, creating, launching, reading⟩ :=
    DeviceReplay.perform_ok performed
  obtain rfl := Output.readBack_after reading
  obtain ⟨_, programs, builds, prepared_eq⟩ := Program.acquire_ok acquiring
  obtain ⟨arguments, binding, _⟩ := Bindings.create_ok creating
  have named := binding.kernel_eq (Program.fresh_of_acquire acquiring) (.refl bound)
  have launches_eq : bound.launches = device.launches := by
    rw [binding.after_eq, prepared_eq]
    rfl
  refine ⟨acquired, prepared, bindings, bound, arguments, acquiring, creating, launching, ?_,
    binding.positions_eq, fun position argument held => ?_⟩
  · rw [← launches_eq]
    exact Output.launches_launchTimes named launching
  · exact binding.rebuilt (by rw [prepared_eq]) (by rw [prepared_eq]) held

/-- A capture with arguments of all kinds. -/
def Replay.mixedCapture : Capture where
  root := ⟨"cap"⟩
  launch := ⟨⟨1⟩, "f", [], ⟨[8], [0], [0]⟩⟩
  arguments := Bindings.mixedTable
  program := .source "f"
  svmActive := false
  notices := []

theorem Replay.mixedCapture_reconstructed :
    ∃ summary written after arguments,
      replay { repetitions := 2, writeOutputs := false } mixedCapture .empty
          (Simulator.new .plain ()) = (.ok summary, written, after) ∧
        after.launches.toList = List.replicate 2 ⟨"f", ⟨[8], [0], [0]⟩, arguments⟩ ∧
        arguments.positions = List.range 7 := by
  have accepted : (replay { repetitions := 2, writeOutputs := false } mixedCapture .empty
      (Simulator.new .plain ())).1.isOk := by decide +kernel
  obtain ⟨summary, ⟨written, after⟩, replayed⟩ := DeviceM.exists_of_isOk accepted
  obtain ⟨_, _, _, _, arguments, _, _, _, launches, positions, _⟩ :=
    captured_call_reconstructed replayed
  exact ⟨summary, written, after, arguments, replayed, launches, positions⟩

end LaunchReplay
