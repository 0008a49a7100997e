import LaunchReplay.Proofs.Replay.Reconstruction
import LaunchReplay.Proofs.Replay.Writing

/-!
# Replays of kernels that do nothing

A simulated device has host kernels for some names only. A kernel of another name is launched
without an effect on memory, so all outputs are read back as they were before the launch, provided
that the contents which were captured for one allocation agree.
-/

namespace LaunchReplay

open Simulator

variable {κ : Type}

/-! ## Launches without a host kernel -/

namespace Simulator

variable {state : Simulator κ} {handle : Handle .kernel} {kernel : Kernel} {geometry : Geometry}

theorem store_launch_of_idle (named : state.kernels[handle.index]? = some kernel)
    (idle : state.setup.hostKernel? kernel.name = none) :
    (state.launch handle geometry).2.store = state.store := by
  rcases state.launch_cases handle geometry with ⟨error, refused⟩ | ⟨other, checked, accepted⟩
  · rw [refused]
  · obtain rfl : kernel = other := Option.some.inj (named.symm.trans (checkLaunch_ok.mp checked).1)
    have unchanged : (state.runHost kernel geometry).2 = state.store := by
      rw [runHost, idle]
    rw [accepted]
    exact unchanged

/-- What launches without a host kernel have left as it was. -/
structure Undisturbed (before after : Simulator κ) : Prop where
  /-- What no launch changes. -/
  steady : Steady before after
  /-- All memory with its content. -/
  store : after.store = before.store

theorem Undisturbed.refl (state : Simulator κ) : Undisturbed state state :=
  ⟨.refl state, rfl⟩

theorem Undisturbed.launch {later : Simulator κ} (undisturbed : Undisturbed state later)
    (named : state.kernels[handle.index]? = some kernel)
    (idle : state.setup.hostKernel? kernel.name = none) (geometry : Geometry) :
    Undisturbed state (later.launch handle geometry).2 where
  steady := undisturbed.steady.trans (later.launch_steady handle geometry)
  store := by
    rw [← undisturbed.store]
    exact store_launch_of_idle (undisturbed.steady.kernels ▸ named)
      (undisturbed.steady.setup ▸ idle)

theorem launchTimes_undisturbed (named : state.kernels[handle.index]? = some kernel)
    (idle : state.setup.hostKernel? kernel.name = none) (geometry : Geometry) (repetitions : Nat) :
    Undisturbed state (Output.launchTimes handle geometry repetitions state).2 :=
  Output.launchTimes_invariant
    (fun _ undisturbed => undisturbed.launch named idle geometry) repetitions (.refl state)

end Simulator

/-! ## Contents of new objects -/

/-- The kind of the output of an argument. -/
def Argument.outputKind? : Argument → Option OutputKind
  | .buffer _ _ | .svm _ _ _ => some .buffer
  | .image _ _ => some .image
  | _ => none

namespace ArgumentTable

variable {table : ArgumentTable} {position : Nat}

/-- The kind of the output at a position. -/
def outputKind? (table : ArgumentTable) (position : Nat) : Option OutputKind :=
  (table.get? position).bind Argument.outputKind?

theorem mem_outputPositions_iff :
    position ∈ outputPositions table ↔ (outputKind? table position).isSome := by
  rw [outputPositions, List.mem_map, outputKind?]
  constructor
  · rintro ⟨⟨position, argument⟩, listed, rfl⟩
    obtain ⟨entry_mem, output⟩ := List.mem_filter.mp listed
    rw [PositionMap.get?_eq_some_iff.mpr entry_mem]
    cases argument <;> first | rfl | cases output
  · intro some_kind
    obtain ⟨kind, of_kind⟩ := Option.isSome_iff_exists.mp some_kind
    obtain ⟨argument, held, of_kind⟩ := Option.bind_eq_some_iff.mp of_kind
    refine ⟨(position, argument), List.mem_filter.mpr
      ⟨PositionMap.get?_eq_some_iff.mp held, ?_⟩, rfl⟩
    cases argument <;> first | rfl | cases of_kind

theorem outputPositions_ascending (table : ArgumentTable) :
    (outputPositions table).Pairwise (· < ·) := by
  have sublist : (outputPositions table).Sublist table.positions :=
    List.filter_sublist.map _
  exact table.positions_ascending.sublist sublist

end ArgumentTable

theorem Bytes.take_extendTo {length longest : Nat} (within : length ≤ longest) (bytes : Bytes) :
    (bytes.extendTo longest).take length = (bytes.extendTo length).take length := by
  rw [extendTo, extendTo, List.take_append, List.take_append, List.take_replicate,
    List.take_replicate]
  congr 2
  omega

/-- Memory begins with the content of the lowest position that it is for, followed by zeros. -/
theorem SeededFor.take_eq {table : ArgumentTable} {position seed length : Nat} {content : Bytes}
    (seeded : SeededFor table position content)
    (lowest : IsLeast {other | table.Shares position other} seed)
    (within : length ≤ (ArgumentTable.preState table position).length) :
    content.take length = ((ArgumentTable.preState table seed).extendTo length).take length := by
  obtain ⟨other, longest, other_lowest, greatest, rfl⟩ := seeded
  obtain rfl := lowest.unique other_lowest
  have own_length : (ArgumentTable.preState table position).length ≤ longest :=
    greatest.2 ⟨position, .inl rfl, rfl⟩
  exact Bytes.take_extendTo (within.trans own_length) _

/-- Every object starts with a content for its positions, an image with its own. -/
theorem Allocation.seededFor_of_bytes? {table : ArgumentTable} {object : Allocation}
    {position : Nat} {content : Bytes} (made : object ∈ all (.resolve table) table)
    (inside : position ∈ object.positions) (begins : object.bytes? table = some content) :
    SeededFor table position content := by
  have seeded := (isAliasClass_of_mem_all made).seededFor inside
  cases object with
  | buffer group | region group =>
      cases begins
      exact seeded
  | image place descriptor preState =>
      cases begins
      have own : ArgumentTable.preState table place = content := by
        rw [ArgumentTable.preState, image_held made]
        rfl
      have same : Allocation.seeded table [place] = content := by
        simp [Allocation.seeded, Bindings.longest, own, Bytes.extendTo]
      exact same ▸ seeded
  | sampler place descriptor => cases begins

namespace ArgumentTable

variable {table : ArgumentTable} {position : Nat}

/-- Whether the contents that were captured for one allocation agree. -/
def Agrees (table : ArgumentTable) : Prop :=
  ∀ position other, table.Aliased position other →
    preState table position = preState table other

/-- New memory starts with the content of each position that it is for, if those agree. -/
theorem Agrees.take_seeded (agrees : Agrees table) {content : Bytes}
    (seeded : SeededFor table position content) :
    content.take (preState table position).length = preState table position := by
  obtain ⟨seed, longest, lowest, _, rfl⟩ := seeded
  have same : preState table position = preState table seed := by
    rcases lowest.1 with rfl | aliased
    · rfl
    · exact agrees position seed aliased
  rw [same, Bytes.extendTo, List.take_left]

end ArgumentTable

namespace Bindings

variable {table : ArgumentTable} {kernel : Handle .kernel} {before after : Simulator κ}
  {values : PositionMap BoundValue} {slot : OutputSlot}

/-- What would be read back right after binding begins the content that is for the position. -/
theorem Bound.exists_seeded (bound : Bound table (.resolve table) kernel before values after)
    (slot_mem : slot ∈ values.entries.filterMap (slot? table)) :
    ∃ content, SeededFor table slot.position content ∧ (Output.ofSlot after.store slot).bytes =
      content.take (ArgumentTable.preState table slot.position).length := by
  obtain ⟨value, found, made⟩ := mem_outputs_iff.mp slot_mem
  obtain ⟨argument, _, supplied⟩ := bound.exists_argument found
  obtain ⟨_, behind, length_eq⟩ := slot?_eq_some made
  obtain ⟨earlier, owner, owns⟩ := exists_owns_of_object? supplied behind
  obtain ⟨content, begins, held, _⟩ := owns.exists_bytes behind
  refine ⟨content, Allocation.seededFor_of_bytes? owns.mem owns.position_mem begins, ?_⟩
  rw [Output.ofSlot, bound.after_eq, length_eq]
  change ((Store.bytes? (before.withObjects table _).store _).getD []).take _ = _
  rw [held]
  rfl

/-- If the contents for each allocation agree, it is what was captured before the launch. -/
theorem Bound.bytes_ofSlot (agrees : table.Agrees)
    (bound : Bound table (.resolve table) kernel before values after)
    (slot_mem : slot ∈ values.entries.filterMap (slot? table)) :
    (Output.ofSlot after.store slot).bytes = ArgumentTable.preState table slot.position := by
  obtain ⟨content, seeded, read⟩ := bound.exists_seeded slot_mem
  rw [read]
  exact agrees.take_seeded seeded

end Bindings

/-! ## Outputs of an idle replay -/

namespace Output

/-- All outputs as they were before the launch. -/
theorem matches_of_complete {table : ArgumentTable} {outputs : List Output}
    (complete : Complete table outputs)
    (unchanged : ∀ output ∈ outputs,
      output.bytes = ArgumentTable.preState table output.position) :
    Matches outputs table.outputKind? (ArgumentTable.preState table) := by
  have kind_of (output : Output) (output_mem : output ∈ outputs) :
      table.outputKind? output.position = some output.kind := by
    obtain ⟨argument, held, has_memory⟩ :=
      (complete.positions output.position).mp (List.mem_map_of_mem output_mem)
    have image := complete.image output output_mem
    rw [held] at image
    rw [ArgumentTable.outputKind?, held]
    cases kind : output.kind <;> cases argument <;>
      simp_all [Argument.kind, Argument.outputKind?]
  refine ⟨fun position kind => ⟨fun of_kind => ?_, ?_⟩, unchanged⟩
  · obtain ⟨argument, held, argument_kind⟩ := Option.bind_eq_some_iff.mp of_kind
    have has_memory : argument.kind = .buffer ∨ argument.kind = .svm ∨ argument.kind = .image := by
      cases argument <;> simp_all [Argument.kind, Argument.outputKind?]
    obtain ⟨output, output_mem, rfl⟩ :=
      List.mem_map.mp ((complete.positions position).mpr ⟨argument, held, has_memory⟩)
    rw [kind_of output output_mem] at of_kind
    exact ⟨output, output_mem, rfl, Option.some.inj of_kind⟩
  · rintro ⟨output, output_mem, rfl, rfl⟩
    exact kind_of output output_mem

end Output

/-- A replay on a device without a host kernel for the captured entry point reads back what was
captured before the launch. -/
theorem DeviceReplay.outputs_of_idle {config : ReplayConfig} {capture : Capture}
    {device after : Simulator κ} {replayed : DeviceReplay}
    (idle : device.setup.hostKernel? capture.launch.kernelName = none)
    (agrees : capture.arguments.Agrees)
    (run : perform config capture device = (.ok replayed, after)) :
    (replayed.outputs.map (·.position)).Pairwise (· < ·) ∧
      Output.Matches replayed.outputs capture.arguments.outputKind?
        (ArgumentTable.preState capture.arguments) := by
  obtain ⟨acquired, prepared, bindings, bound, launched, acquiring, creating, launching, reading⟩ :=
    perform_ok run
  obtain ⟨_, programs, builds, prepared_eq⟩ := Program.acquire_ok acquiring
  obtain ⟨values, binding, rfl⟩ := Bindings.create_ok creating
  have setup_eq : bound.setup = device.setup := by
    rw [binding.after_eq, prepared_eq]
    rfl
  have named := binding.kernel_eq (Program.fresh_of_acquire acquiring) (.refl bound)
  have still_idle : bound.setup.hostKernel? capture.launch.kernelName = none := setup_eq ▸ idle
  have undisturbed : Undisturbed bound launched := by
    have kept := launchTimes_undisturbed named still_idle capture.launch.geometry config.repetitions
    rwa [launching] at kept
  have read : replayed.outputs =
      (values.entries.filterMap (Bindings.slot? capture.arguments)).map
        (Output.ofSlot launched.store) := by
    have readable := Output.readBack_of_readable fun slot => binding.readable undisturbed.steady
    have same_run := congrArg Prod.fst (reading.symm.trans readable)
    exact Except.ok.inj same_run
  have complete := binding.complete undisturbed.steady
  rw [← read] at complete
  refine ⟨complete.ascending, Output.matches_of_complete complete fun output output_mem => ?_⟩
  rw [read] at output_mem
  obtain ⟨slot, slot_mem, rfl⟩ := List.mem_map.mp output_mem
  rw [undisturbed.store]
  exact binding.bytes_ofSlot agrees slot_mem

end LaunchReplay
