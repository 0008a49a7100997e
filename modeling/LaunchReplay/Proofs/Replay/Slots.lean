import LaunchReplay.Proofs.Device.Lawful
import LaunchReplay.Proofs.Replay.Idle

/-!
# Outputs on any device

Whatever handles a device gives out, a position is bound to a value of the kind of its argument. So
on a lawful device there is one output for each argument that has memory, of its kind and as long as
its content before the launch, whatever is in it.
-/

namespace LaunchReplay

/-! ## What outputs are to look like -/

/-- What an output is apart from its bytes. -/
structure OutputShape where
  /-- Position of the argument. -/
  position : Nat
  /-- Kind of output file. -/
  kind : OutputKind
  /-- Number of bytes. -/
  length : Nat
deriving DecidableEq, Repr

/-- What the output of a slot is to look like. -/
def OutputSlot.shape (slot : OutputSlot) : OutputShape :=
  ⟨slot.position, slot.kind, slot.length⟩

/-- What an output looks like. -/
def Output.shape (output : Output) : OutputShape :=
  ⟨output.position, output.kind, output.bytes.length⟩

/-- What the output of an argument is to look like, if it has one: as long as its content before the
launch. -/
def Argument.outputShape? (position : Nat) (argument : Argument) : Option OutputShape :=
  argument.outputKind?.map fun kind => ⟨position, kind, (argument.preState?.getD []).length⟩

namespace ArgumentTable

variable {table : ArgumentTable}

/-- What the outputs of a table are to look like, in ascending position. -/
def outputShapes (table : ArgumentTable) : List OutputShape :=
  table.entries.filterMap fun entry => entry.2.outputShape? entry.1

theorem positions_outputShapes (table : ArgumentTable) :
    table.outputShapes.map (·.position) = outputPositions table := by
  rw [outputShapes, outputPositions]
  induction table.entries with
  | nil => rfl
  | cons entry rest induction =>
      obtain ⟨position, argument⟩ := entry
      cases argument <;>
        simp_all [Argument.outputShape?, Argument.outputKind?, Argument.hasOutput,
          Argument.preState?]

theorem preState_of_entry {entry : Nat × Argument} (entry_mem : entry ∈ table.entries) :
    preState table entry.1 = entry.2.preState?.getD [] := by
  rw [preState, PositionMap.get?_eq_some_iff.mpr entry_mem]
  rfl

theorem eq_of_mem_outputShapes {shape : OutputShape} (shape_mem : shape ∈ table.outputShapes) :
    outputKind? table shape.position = some shape.kind ∧
      shape.length = (preState table shape.position).length := by
  obtain ⟨entry, entry_mem, shaped⟩ := List.mem_filterMap.mp shape_mem
  obtain ⟨kind, of_kind, rfl⟩ := Option.map_eq_some_iff.mp shaped
  rw [preState_of_entry entry_mem, outputKind?, PositionMap.get?_eq_some_iff.mpr entry_mem]
  exact ⟨of_kind, rfl⟩

end ArgumentTable

/-! ## Kinds of what positions are bound to -/

namespace Allocation

variable {table : ArgumentTable} {object : Allocation}

/-- The kind of argument for which an object is made. -/
def kind : Allocation → ArgumentKind
  | buffer _ => .buffer
  | region _ => .svm
  | image _ _ _ => .image
  | sampler _ _ => .sampler

/-- All positions of an object have arguments of its kind. -/
theorem kind_of_mem_all (made : object ∈ all (.resolve table) table) {position : Nat}
    (inside : position ∈ object.positions) :
    ∃ argument, table.get? position = some argument ∧ argument.kind = object.kind := by
  rcases List.mem_append.mp made with grouped | own
  · rcases List.mem_append.mp grouped with buffers | regions
    · obtain ⟨group, group_mem, rfl⟩ := List.mem_map.mp buffers
      obtain ⟨identity, preState, held⟩ := AliasPlan.buffer_of_mem_bufferGroup group_mem inside
      exact ⟨_, held, rfl⟩
    · obtain ⟨group, group_mem, rfl⟩ := List.mem_map.mp regions
      obtain ⟨⟨_, offset⟩, member_mem, rfl⟩ := List.mem_map.mp inside
      obtain ⟨identity, preState, held⟩ := AliasPlan.svm_of_mem_svmGroup group_mem member_mem
      exact ⟨_, held, rfl⟩
  · obtain ⟨⟨place, argument⟩, entry_mem, entry_made⟩ := List.mem_filterMap.mp own
    rw [positions_of_own entry_made] at inside
    obtain rfl := List.mem_singleton.mp inside
    refine ⟨argument, PositionMap.get?_eq_some_iff.mpr entry_mem, ?_⟩
    cases argument <;> cases entry_made <;> rfl

end Allocation

namespace BindingTargets

variable {table : ArgumentTable} {targets : BindingTargets}

/-- Whether all targets are of the kinds of the arguments at their positions. -/
def Fitting (table : ArgumentTable) (targets : BindingTargets) : Prop :=
  ∀ position value, targets.get? position = some value →
    ∃ argument, table.get? position = some argument ∧ argument.kind = value.kind

theorem Fitting.assign (fitting : Fitting table targets) {members : List (Nat × BoundValue)}
    (alike : ∀ member ∈ members,
      ∃ argument, table.get? member.1 = some argument ∧ argument.kind = member.2.kind) :
    Fitting table (targets.assign members) := by
  intro position value found
  rw [BindingTargets.assign, PositionMap.get?_foldl_insert] at found
  rcases Option.or_eq_some_iff.mp found with new | ⟨_, old⟩
  · obtain ⟨⟨place, member⟩, search, rfl⟩ := Option.map_eq_some_iff.mp new
    obtain rfl : place = position := by simpa using List.find?_some search
    exact alike _ (List.mem_reverse.mp (List.mem_of_find?_eq_some search))
  · exact fitting position value old

/-- Every argument is bound to a value of its kind. -/
theorem Fitting.kind_of_value (fitting : Fitting table targets) {entry : Nat × Argument}
    {value : BoundValue} (entry_mem : entry ∈ table.entries)
    (valued : targets.value entry = .ok value) : value.kind = entry.2.kind := by
  obtain ⟨position, argument⟩ := entry
  by_cases needed : argument.kind ≠ .scalar ∧ argument.kind ≠ .localMemory
  · obtain ⟨other, held, of_kind⟩ :=
      fitting position value (Bindings.get?_of_value_ok needed valued)
    rw [PositionMap.get?_eq_some_iff.mpr entry_mem] at held
    exact of_kind.symm.trans (congrArg Argument.kind (Option.some.inj held).symm)
  · cases argument with
    | scalar bytes =>
        cases valued
        rfl
    | localMemory size =>
        cases valued
        rfl
    | _ => simp [Argument.kind] at needed

end BindingTargets

variable {σ : Type} [Device σ] {table : ArgumentTable} {targets : BindingTargets}

namespace Bindings

/-- Making an object assigns values of its kind to its positions, whatever the device answers. -/
theorem allocate_assigns {object : Allocation} {before after : σ} {assigned : BindingTargets}
    (made : allocate table targets object before = (.ok assigned, after)) :
    ∃ members, assigned = targets.assign members ∧
      ∀ member ∈ members, member.1 ∈ object.positions ∧ object.kind = member.2.kind := by
  cases object with
  | buffer group =>
      obtain ⟨_, _, _, made⟩ := DeviceM.bind_ok.mp made
      obtain ⟨memory, _, _, made⟩ := DeviceM.bind_ok.mp made
      obtain ⟨rfl, _⟩ := DeviceM.pure_ok.mp made
      exact ⟨_, rfl, List.forall_mem_map.mpr fun position inside => ⟨inside, rfl⟩⟩
  | region group =>
      obtain ⟨_, _, _, made⟩ := DeviceM.bind_ok.mp made
      obtain ⟨region, _, _, made⟩ := DeviceM.bind_ok.mp made
      obtain ⟨rfl, _⟩ := DeviceM.pure_ok.mp made
      exact ⟨_, rfl, List.forall_mem_map.mpr fun member inside =>
        ⟨List.mem_map_of_mem inside, rfl⟩⟩
  | image position descriptor preState =>
      obtain ⟨memory, _, _, made⟩ := DeviceM.bind_ok.mp made
      obtain ⟨rfl, _⟩ := DeviceM.pure_ok.mp made
      exact ⟨[(position, .image memory)], rfl,
        List.forall_mem_singleton.mpr ⟨List.mem_singleton_self position, rfl⟩⟩
  | sampler position descriptor =>
      obtain ⟨sampler, _, _, made⟩ := DeviceM.bind_ok.mp made
      obtain ⟨rfl, _⟩ := DeviceM.pure_ok.mp made
      exact ⟨[(position, .sampler sampler)], rfl,
        List.forall_mem_singleton.mpr ⟨List.mem_singleton_self position, rfl⟩⟩

theorem fitting_of_foldlM {objects : List Allocation} {before after : σ}
    {filled : BindingTargets}
    (made : ∀ object ∈ objects, object ∈ Allocation.all (.resolve table) table)
    (fitting : targets.Fitting table)
    (run : objects.foldlM (allocate table) targets before = (.ok filled, after)) :
    filled.Fitting table := by
  induction objects generalizing targets before with
  | nil =>
      rw [List.foldlM_nil] at run
      obtain ⟨rfl, _⟩ := DeviceM.pure_ok.mp run
      exact fitting
  | cons object rest induction =>
      rw [List.foldlM_cons] at run
      obtain ⟨assigned, middle, first, run⟩ := DeviceM.bind_ok.mp run
      rw [List.forall_mem_cons] at made
      obtain ⟨members, rfl, alike⟩ := allocate_assigns first
      refine induction made.2 (fitting.assign fun member member_mem => ?_) run
      obtain ⟨inside, of_kind⟩ := alike member member_mem
      rw [← of_kind]
      exact Allocation.kind_of_mem_all made.1 inside

omit [Device σ] in
theorem shape_slot? {entry : Nat × Argument} {bound : Nat × BoundValue}
    (entry_mem : entry ∈ table.entries) (same : entry.1 = bound.1)
    (of_kind : bound.2.kind = entry.2.kind) :
    (slot? table bound).map OutputSlot.shape = entry.2.outputShape? entry.1 := by
  have length_eq := ArgumentTable.preState_of_entry entry_mem
  obtain ⟨position, argument⟩ := entry
  obtain ⟨place, value⟩ := bound
  obtain rfl : position = place := same
  cases argument <;> cases value <;> cases of_kind <;>
    simp [slot?, OutputSlot.shape, Argument.outputShape?, Argument.outputKind?, length_eq]

/-- The slots of a resolved plan are those of the arguments with memory. -/
theorem shapes_of_create {kernel : Handle .kernel} {before after : σ} {bindings : Bindings}
    (created : create table (.resolve table) kernel before = (.ok bindings, after)) :
    bindings.outputs.map OutputSlot.shape = table.outputShapes := by
  obtain ⟨_, _, targets, bound, making, related, outputs_eq⟩ := create_reports created
  have fitting : targets.Fitting table :=
    fitting_of_foldlM (fun _ => id) (by simp [BindingTargets.Fitting]) making
  have alike : List.Forall₂ (fun entry value => (slot? table value).map OutputSlot.shape =
      entry.2.outputShape? entry.1) table.entries bound :=
    related.imp fun entry value ⟨entry_mem, same, valued⟩ =>
      shape_slot? entry_mem same (fitting.kind_of_value entry_mem valued)
  rw [outputs_eq, ArgumentTable.outputShapes, List.map_filterMap]
  generalize table.entries = entries at alike
  clear * - alike
  induction alike with
  | nil => rfl
  | cons first _ induction => rw [List.filterMap_cons, List.filterMap_cons, first, induction]

end Bindings

/-- A lawful device reads back what the slots ask for. -/
theorem Output.shapes_of_readBack [LawfulDevice σ] {slots : List OutputSlot}
    {outputs : List Output} {before after : σ}
    (run : readBack slots before = (.ok outputs, after)) :
    outputs.map shape = slots.map OutputSlot.shape := by
  obtain ⟨contents, _, asked, finished⟩ := DeviceM.bind_ok.mp run
  obtain ⟨rfl, _⟩ := DeviceM.pure_ok.mp finished
  have lengths := LawfulDevice.lengths_of_readBack _ before contents
    (congrArg Prod.fst (DeviceM.ask_ok.mp asked))
  clear * - lengths
  induction slots with
  | nil => rfl
  | cons slot rest induction =>
      cases contents with
      | nil => cases lengths
      | cons bytes more =>
          obtain ⟨length_eq, lengths⟩ := List.cons.inj lengths
          have head_eq : shape ⟨slot.position, slot.kind, bytes⟩ = slot.shape := by
            rw [shape, OutputSlot.shape, length_eq]
            rfl
          rw [List.zipWith_cons_cons, List.map_cons, List.map_cons, head_eq, induction more lengths]

namespace DeviceReplay

variable [LawfulDevice σ] {config : ReplayConfig} {capture : Capture} {device after : σ}
  {work : DeviceReplay} (run : perform config capture device = (.ok work, after))

include run

/-- The outputs of a replay on a lawful device are those of the captured arguments. -/
theorem shapes_of_perform : work.outputs.map Output.shape = capture.arguments.outputShapes := by
  obtain ⟨_, _, _, _, _, _, creating, _, reading⟩ := perform_ok run
  exact (Output.shapes_of_readBack reading).trans (Bindings.shapes_of_create creating)

theorem positions_of_perform : work.outputs.map (·.position) = capture.outputPositions := by
  have positions_eq := congrArg (List.map OutputShape.position) (shapes_of_perform run)
  rwa [ArgumentTable.positions_outputShapes, List.map_map] at positions_eq

end DeviceReplay

end LaunchReplay
