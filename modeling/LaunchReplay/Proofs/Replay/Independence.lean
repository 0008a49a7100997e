import LaunchReplay.Proofs.Replay.Reconstruction
import LaunchReplay.Proofs.Simulator.Beside
import LaunchReplay.Proofs.Simulator.WellBound

/-!
# Replays on used devices

A replay speaks only of objects that it made itself. So on a simulated device that was used before
it goes in step with one on a new device: all its handles are moved behind the older objects, and
neither its outputs nor its errors tell that there are any.
-/

namespace LaunchReplay

open Simulator

variable {κ : Type}

/-! ## Results with moved handles -/

/-- An acquired program with its handles moved behind older objects. -/
def AcquiredProgram.moved (older : HandleKind → Nat) (acquired : AcquiredProgram) :
    AcquiredProgram :=
  { acquired with program := acquired.program.moved older, kernel := acquired.kernel.moved older }

/-- An output with its object moved behind older objects. -/
def OutputSlot.moved (older : HandleKind → Nat) (slot : OutputSlot) : OutputSlot :=
  { slot with source := slot.source.moved older }

/-- Bindings with the objects of their outputs moved behind older objects. -/
def Bindings.moved (older : HandleKind → Nat) (bindings : Bindings) : Bindings :=
  { bindings with outputs := bindings.outputs.map (OutputSlot.moved older) }

/-- A replay with its handles moved behind older objects. -/
def DeviceReplay.moved (older : HandleKind → Nat) (replay : DeviceReplay) : DeviceReplay :=
  { replay with acquired := replay.acquired.moved older }

section

variable {old alone both : Simulator κ}

/-! ## The program -/

namespace AcquiredProgram

variable {launch : Launch}

theorem ofImage_inStep (alike : Beside old alone both) (image : ProgramImage) :
    InStep (Beside old) (moved old.counts) (ofImage launch image alone)
      (ofImage launch image both) := by
  refine DeviceM.inStep_bind
    (DeviceM.inStep_ask _ _ (buildProgram_beside alike image launch.optionString)) ?_
  intro program built built' run built_alike
  obtain ⟨shape, _, named⟩ := shape?_of_creation rfl (DeviceM.ask_ok.mp run)
  refine DeviceM.inStep_bind
    (DeviceM.inStep_ask _ _ (createKernel_beside built_alike named launch.kernelName)) ?_
  intro kernel created created' _ created_alike
  exact DeviceM.inStep_pure created_alike

theorem tryBinary_inStep (alike : Beside old alone both) (blob : NamedBlob) :
    InStep (Beside old)
      (Except.map (Prod.map (Handle.moved old.counts) (Handle.moved old.counts)))
      (tryBinary launch blob alone) (tryBinary launch blob both) := by
  refine DeviceM.inStep_bind
    (DeviceM.inStep_attempt _ _
      (buildProgram_beside alike (.binary blob.bytes) launch.optionString)) ?_
  intro build built built' run built_alike
  cases build with
  | error error => exact DeviceM.inStep_pure built_alike
  | ok program =>
      obtain ⟨shape, _, named⟩ := shape?_of_creation rfl (DeviceM.attempt_ok.mp run)
      refine DeviceM.inStep_bind
        (DeviceM.inStep_attempt _ _ (createKernel_beside built_alike named launch.kernelName)) ?_
      intro creation created created' _ created_alike
      cases creation <;> exact DeviceM.inStep_pure created_alike

theorem ofBinaries_inStep (alike : Beside old alone both) (rejected : List BinaryAttempt)
    (blobs : List NamedBlob) :
    InStep (Beside old) (moved old.counts) (ofBinaries launch rejected blobs alone)
      (ofBinaries launch rejected blobs both) := by
  induction blobs generalizing rejected alone both with
  | nil => exact DeviceM.inStep_throw alike
  | cons blob rest induction =>
      refine DeviceM.inStep_bind (tryBinary_inStep alike blob) ?_
      intro outcome tried tried' _ tried_alike
      cases outcome with
      | error error => exact induction tried_alike _
      | ok made => exact DeviceM.inStep_pure tried_alike

end AcquiredProgram

theorem Program.acquire_inStep (alike : Beside old alone both) (launch : Launch)
    (program : Program) :
    InStep (Beside old) (AcquiredProgram.moved old.counts) (program.acquire launch alone)
      (program.acquire launch both) := by
  cases program with
  | source text => exact AcquiredProgram.ofImage_inStep alike _
  | intermediate bytes => exact AcquiredProgram.ofImage_inStep alike _
  | binaries candidates =>
      cases candidates with
      | nil => exact DeviceM.inStep_throw alike
      | cons blob rest => exact AcquiredProgram.ofBinaries_inStep alike [] (blob :: rest)

/-! ## Binding the arguments -/

namespace Allocation

variable {table : ArgumentTable} {targets : BindingTargets}

theorem map_assign (older : HandleKind → Nat) (members : List (Nat × BoundValue)) :
    (targets.assign members).map (BoundValue.moved older) =
      BindingTargets.assign (targets.map (BoundValue.moved older))
        (members.map (Prod.map id (BoundValue.moved older))) := by
  induction members generalizing targets with
  | nil => rfl
  | cons member rest induction =>
      change (BindingTargets.assign (targets.insert member.1 member.2) rest).map _ = _
      rw [induction, PositionMap.map_insert]
      rfl

theorem seedOf_inStep {representative : Option Nat} (alike : Beside old alone both) :
    InStep (Beside old) id (Bindings.seedOf representative alone)
      (Bindings.seedOf representative both) := by
  cases representative with
  | none => exact DeviceM.inStep_throw alike
  | some position => exact DeviceM.inStep_pure alike

theorem allocate_inStep (alike : Beside old alone both) (object : Allocation) :
    InStep (Beside old) (PositionMap.map (BoundValue.moved old.counts))
      (Bindings.allocate table targets object alone)
      (Bindings.allocate table (targets.map (BoundValue.moved old.counts)) object both) := by
  cases object with
  | buffer group =>
      refine DeviceM.inStep_bind (seedOf_inStep alike) ?_
      intro seed seeded seeded' _ seeded_alike
      refine DeviceM.inStep_bind (DeviceM.inStep_ask _ _ (addMemory_beside seeded_alike _)) ?_
      intro memory made made' _ made_alike
      refine DeviceM.inStep_pure_of_eq ?_ made_alike
      rw [map_assign, List.map_map]
      rfl
  | region group =>
      refine DeviceM.inStep_bind (seedOf_inStep alike) ?_
      intro seed seeded seeded' _ seeded_alike
      refine DeviceM.inStep_bind (DeviceM.inStep_ask _ _ (createRegion_beside seeded_alike _ _)) ?_
      intro region made made' _ made_alike
      refine DeviceM.inStep_pure_of_eq ?_ made_alike
      rw [map_assign, List.map_map]
      rfl
  | image position descriptor preState =>
      refine DeviceM.inStep_bind (DeviceM.inStep_ask _ _ (addMemory_beside alike _)) ?_
      intro memory made made' _ made_alike
      exact DeviceM.inStep_pure_of_eq (PositionMap.map_insert _ _ _ _) made_alike
  | sampler position descriptor =>
      refine DeviceM.inStep_bind (DeviceM.inStep_ask _ _ (createSampler_beside alike descriptor)) ?_
      intro sampler made made' _ made_alike
      exact DeviceM.inStep_pure_of_eq (PositionMap.map_insert _ _ _ _) made_alike

theorem names_of_mem_members {object : Allocation} {position : Nat} {value : BoundValue}
    {state : Simulator κ} (member : (position, value) ∈ object.members state) :
    (state.withObjects table [object]).Names value := by
  cases object with
  | buffer group =>
      obtain ⟨_, _, made⟩ := List.mem_map.mp member
      cases made
      have held : (state.withObjects table [.buffer group]).store.memory?
          ⟨state.store.memories.length⟩ = some ⟨seeded table group.positions, none⟩ := by
        simp [withObjects, Store.memory?, memory?]
      exact .buffer (shape?_memory.mpr ⟨_, held, rfl, rfl⟩)
  | region group =>
      obtain ⟨_, _, made⟩ := List.mem_map.mp member
      cases made
      have held : (state.withObjects table [.region group]).store.region?
          ⟨state.store.regions.length⟩ = some (seeded table group.positions) := by
        simp [withObjects, Store.region?, region?]
      exact .svm (shape?_region.mpr ⟨_, held, rfl⟩)
  | image _ descriptor preState =>
      cases List.mem_singleton.mp member
      have held : (state.withObjects table [.image position descriptor preState]).store.memory?
          ⟨state.store.memories.length⟩ = some ⟨preState, some descriptor⟩ := by
        simp [withObjects, Store.memory?, memory?]
      exact .image (shape?_memory.mpr ⟨_, held, rfl, rfl⟩)
  | sampler _ descriptor =>
      cases List.mem_singleton.mp member
      have held : (state.withObjects table [.sampler position descriptor]).samplers[
          state.samplers.length]? = some descriptor := by
        simp [withObjects, sampler?]
      exact .sampler (shape?_sampler.mpr held)

theorem Owns.names {state : Simulator κ} {objects before : List Allocation} {object : Allocation}
    {position : Nat} {value : BoundValue}
    (owns : Owns table state objects before object position value) :
    (state.withObjects table objects).Names value := by
  obtain ⟨⟨after, rfl, _⟩, bound⟩ := owns
  rw [← List.singleton_append, ← List.append_assoc, Simulator.withObjects_append,
    Simulator.withObjects_append]
  exact (names_of_mem_members bound).outlast (outlasts_withObjects _ table after)

end Allocation

namespace Bindings

variable {table : ArgumentTable} {plan : AliasPlan} {kernel : Handle .kernel}

theorem value_map (older : HandleKind → Nat) (targets : BindingTargets) (entry : Nat × Argument) :
    BindingTargets.value (targets.map (BoundValue.moved older)) entry =
      (targets.value entry).map (BoundValue.moved older) := by
  obtain ⟨position, argument⟩ := entry
  cases argument <;>
    first
      | rfl
      | simp only [BindingTargets.value, PositionMap.get?_map]
        cases targets.get? position <;> rfl

/-- The values for the arguments name objects that were made for them. -/
theorem names_of_value_ok {objects : List Allocation} {state : Simulator κ}
    {entry : Nat × Argument} {value : BoundValue}
    (valued : (BindingTargets.assign .empty
      (Allocation.allMembers table state objects)).value entry = .ok value) :
    (state.withObjects table objects).Names value := by
  obtain ⟨position, argument⟩ := entry
  by_cases plain : argument.kind ≠ .scalar ∧ argument.kind ≠ .localMemory
  · obtain ⟨_, _, owns⟩ := exists_owns_of_target (get?_of_value_ok plain valued)
    exact owns.names
  · cases argument with
    | scalar bytes =>
        cases valued
        exact .scalar bytes
    | localMemory size =>
        cases valued
        exact .localMemory size
    | _ => simp [Argument.kind] at plain

theorem bindEntry_inStep (alike : Beside old alone both) {targets : BindingTargets}
    {entry : Nat × Argument} {shape : ObjectShape} (named : alone.shape? kernel = some shape)
    (names : ∀ value, targets.value entry = .ok value → alone.Names value) :
    InStep (Beside old) (Prod.map id (BoundValue.moved old.counts))
      (bindEntry kernel targets entry alone)
      (bindEntry (kernel.moved old.counts) (targets.map (BoundValue.moved old.counts)) entry
        both) := by
  rw [bindEntry, bindEntry, value_map]
  cases valued : targets.value entry with
  | error error => exact DeviceM.inStep_throw alike
  | ok value =>
      have asked : InStep (Beside old) (id : Unit → Unit)
          (DeviceM.ask ReplayError.device (.bind kernel entry.1 value) alone)
          (DeviceM.ask ReplayError.device
            (.bind (kernel.moved old.counts) entry.1 (value.moved old.counts)) both) :=
        DeviceM.inStep_ask (.bind _ _ _) (.bind _ _ _)
          (bind_beside alike named (names value valued) entry.1)
      refine DeviceM.inStep_bind asked ?_
      intro _ bound bound' _ bound_alike
      exact DeviceM.inStep_pure bound_alike

/-- Binding makes no object go away, so that all entries can be bound in step. -/
theorem mapM_bindEntry_inStep (alike : Beside old alone both) {targets : BindingTargets}
    {entries : List (Nat × Argument)} {shape : ObjectShape}
    (named : alone.shape? kernel = some shape)
    (names : ∀ entry value, targets.value entry = .ok value → alone.Names value) :
    InStep (Beside old) (List.map (Prod.map id (BoundValue.moved old.counts)))
      (entries.mapM (bindEntry kernel targets) alone)
      (entries.mapM (bindEntry (kernel.moved old.counts)
        (targets.map (BoundValue.moved old.counts))) both) := by
  have steps : ∀ entry ∈ entries, ∀ reached reached', Outlasts alone reached →
      Beside old reached reached' →
        InStep (Beside old) (Prod.map id (BoundValue.moved old.counts))
          (bindEntry kernel targets entry reached)
          (bindEntry (kernel.moved old.counts) (targets.map (BoundValue.moved old.counts)) entry
            reached') := by
    intro entry _ reached reached' outlasts reached_alike
    exact bindEntry_inStep reached_alike (outlasts.shape? named)
      fun value valued => (names entry value valued).outlast outlasts
  have keeps : ∀ entry ∈ entries, ∀ reached value next, Outlasts alone reached →
      bindEntry kernel targets entry reached = (.ok value, next) → Outlasts alone next := by
    intro entry _ reached value next outlasts run
    obtain ⟨_, _, rfl⟩ := bindEntry_ok run
    exact outlasts.trans (outlasts_withArguments reached kernel [value])
  exact DeviceM.inStep_mapM steps keeps (.refl alone) alike

theorem checkArity_inStep (alike : Beside old alone both) :
    InStep (Beside old) id (checkArity table kernel alone)
      (checkArity table (kernel.moved old.counts) both) := by
  refine DeviceM.inStep_bind (DeviceM.inStep_arity? alike (arity?_beside alike kernel)) ?_
  intro declared asked asked' _ asked_alike
  cases declared with
  | none => exact DeviceM.inStep_pure asked_alike
  | some declared =>
      by_cases same : declared = table.size
      · simpa [same] using DeviceM.inStep_pure asked_alike
      · simpa [same] using DeviceM.inStep_throw asked_alike

theorem moved_slot? (older : HandleKind → Nat) (bound : Nat × BoundValue) :
    slot? table (Prod.map id (BoundValue.moved older) bound) =
      (slot? table bound).map (OutputSlot.moved older) := by
  obtain ⟨position, value⟩ := bound
  cases value <;> rfl

theorem create_inStep (alike : Beside old alone both) {shape : ObjectShape}
    (named : alone.shape? kernel = some shape) :
    InStep (Beside old) (moved old.counts) (create table plan kernel alone)
      (create table plan (kernel.moved old.counts) both) := by
  refine DeviceM.inStep_bind (checkArity_inStep alike) ?_
  intro _ checked checked' check checked_alike
  obtain rfl := checkArity_ok check
  refine DeviceM.inStep_bind (DeviceM.inStep_foldlM
    (fun made _ targets _ _ reached => Allocation.allocate_inStep reached made) checked_alike) ?_
  intro targets filled filled' making filled_alike
  obtain ⟨_, rfl, rfl⟩ := Allocation.foldlM_allocate_ok making
  have still_named := (outlasts_withObjects checked table (Allocation.all plan table)).shape? named
  refine DeviceM.inStep_bind (mapM_bindEntry_inStep filled_alike still_named
    fun entry value => names_of_value_ok) ?_
  intro bound final final' _ final_alike
  refine DeviceM.inStep_pure_of_eq ?_ final_alike
  simp [moved, List.filterMap_map, List.map_filterMap, moved_slot?]

end Bindings

/-! ## Launching and reading back -/

namespace Output

variable {kernel : Handle .kernel} {geometry : Geometry}

theorem launchTimes_inStep (alike : Beside old alone both)
    (acts : ∀ name host, alone.setup.hostKernel? name = some host → ActsBeside old host)
    {shape : ObjectShape} (named : alone.shape? kernel = some shape) (repetitions : Nat) :
    InStep (Beside old) id (launchTimes kernel geometry repetitions alone)
      (launchTimes (kernel.moved old.counts) geometry repetitions both) := by
  induction repetitions generalizing alone both with
  | zero => exact DeviceM.inStep_pure alike
  | succ repetitions induction =>
      refine DeviceM.inStep_bind (DeviceM.inStep_ask (.launch _ _) (.launch _ _)
        (launch_beside alike acts named geometry)) ?_
      intro _ launched launched' run launched_alike
      have performed : alone.launch kernel geometry = (.ok (), launched) := DeviceM.ask_ok.mp run
      have steady := performed ▸ alone.launch_steady kernel geometry
      exact induction launched_alike (steady.setup ▸ acts) (steady.outlasts.shape? named)

theorem execute_inStep (alike : Beside old alone both)
    (acts : ∀ name host, alone.setup.hostKernel? name = some host → ActsBeside old host)
    {shape : ObjectShape} (named : alone.shape? kernel = some shape) (repetitions : Nat) :
    InStep (Beside old) id (execute kernel geometry repetitions alone)
      (execute (kernel.moved old.counts) geometry repetitions both) := by
  rw [execute, execute]
  by_cases none : repetitions = 0
  · simpa [none] using DeviceM.inStep_throw alike
  · simp only [none, if_false]
    refine DeviceM.inStep_bind (launchTimes_inStep alike acts named repetitions) ?_
    intro _ launched launched' _ launched_alike
    exact DeviceM.inStep_pure launched_alike

theorem ofSlot_beside (alike : Beside old alone both) (slot : OutputSlot) :
    ofSlot both.store (slot.moved old.counts) = ofSlot alone.store slot := by
  rw [ofSlot, ofSlot, alike.store]
  simp [OutputSlot.moved, bytes?_beside]

theorem readBack_inStep (alike : Beside old alone both) {slots : List OutputSlot}
    (readable : ∀ slot ∈ slots, slot.Readable alone.store) :
    InStep (Beside old) id (readBack slots alone)
      (readBack (slots.map (OutputSlot.moved old.counts)) both) := by
  have readable_beside : ∀ slot ∈ slots.map (OutputSlot.moved old.counts),
      slot.Readable both.store := by
    intro moved moved_mem
    obtain ⟨slot, slot_mem, rfl⟩ := List.mem_map.mp moved_mem
    obtain ⟨bytes, held, fits⟩ := readable slot slot_mem
    exact ⟨bytes, by rw [alike.store, ← held]; exact bytes?_beside old _ slot.source, fits⟩
  rw [readBack_of_readable readable, readBack_of_readable readable_beside]
  refine ⟨alike, ?_⟩
  simp [Except.map, Function.comp_def, ofSlot_beside alike]

end Output

/-! ## The whole replay -/

theorem DeviceReplay.perform_inStep (alike : Beside old alone both)
    (acts : ∀ name host, alone.setup.hostKernel? name = some host → ActsBeside old host)
    (config : ReplayConfig) (capture : Capture) :
    InStep (Beside old) (moved old.counts) (perform config capture alone)
      (perform config capture both) := by
  refine DeviceM.inStep_bind (capture.program.acquire_inStep alike capture.launch) ?_
  intro acquired prepared prepared' acquiring prepared_alike
  have named := shape?_kernel.mpr ⟨_, Program.fresh_of_acquire acquiring, rfl⟩
  obtain ⟨_, programs, builds, prepared_eq⟩ := Program.acquire_ok acquiring
  refine DeviceM.inStep_bind (Bindings.create_inStep prepared_alike named) ?_
  intro bindings bound bound' creating bound_alike
  obtain ⟨values, binding, rfl⟩ := Bindings.create_ok creating
  have bound_named : bound.shape? acquired.kernel = some (.kernel capture.launch.kernelName) := by
    rw [binding.after_eq]
    exact (outlasts_withArguments _ _ _).shape?
      ((outlasts_withObjects prepared _ _).shape? named)
  have bound_acts : ∀ name host, bound.setup.hostKernel? name = some host →
      ActsBeside old host := by
    rw [binding.after_eq, prepared_eq]
    exact acts
  refine DeviceM.inStep_bind (Output.execute_inStep bound_alike bound_acts bound_named _) ?_
  intro enqueues launched launched' executing launched_alike
  have steady : Steady bound launched := by
    have launching : (Output.launchTimes acquired.kernel capture.launch.geometry
        config.repetitions bound).2 = launched := congrArg Prod.snd (Output.execute_ok executing).2
    exact launching ▸ Output.launchTimes_steady config.repetitions bound
  refine DeviceM.inStep_bind (Output.readBack_inStep launched_alike
    fun slot slot_mem => binding.readable steady slot_mem) ?_
  intro outputs final final' _ final_alike
  refine DeviceM.inStep_bind (DeviceM.inStep_info final_alike rfl) ?_
  intro info asked asked' _ asked_alike
  exact DeviceM.inStep_pure asked_alike

end

/-- Replays that go in step on two devices give the same and leave the same in the file tree. -/
theorem Replay.replay_inStep {old alone both : Simulator κ} (alike : Beside old alone both)
    (acts : ∀ name host, alone.setup.hostKernel? name = some host → ActsBeside old host)
    (config : ReplayConfig) (capture : Capture) (tree : FileTree) :
    (replay config capture tree both).1 = (replay config capture tree alone).1 ∧
      (replay config capture tree both).2.1 = (replay config capture tree alone).2.1 := by
  obtain ⟨_, outcomes⟩ := DeviceReplay.perform_inStep alike acts config capture
  rw [replay, replay]
  generalize DeviceReplay.perform config capture alone = apart at outcomes
  generalize DeviceReplay.perform config capture both = together at outcomes
  obtain ⟨outcome, _⟩ := apart
  obtain ⟨outcome', _⟩ := together
  obtain rfl : outcome' = outcome.map _ := outcomes
  cases outcome with
  | error error => exact ⟨rfl, rfl⟩
  | ok replayed =>
      dsimp only [Except.map, DeviceReplay.moved]
      rcases write config capture replayed.outputs tree with ⟨_ | paths, written⟩
      · exact ⟨rfl, rfl⟩
      · exact ⟨rfl, rfl⟩

/-- What a replay gives, and what it leaves in the file tree, does not depend on any earlier calls
to the device, whatever came of them, as long as no host kernel looks at the numbers of handles or
at its memo. -/
theorem Replay.replay_unaffected_by_past {setup : Setup κ}
    (oblivious : ∀ name host, setup.hostKernel? name = some host → Oblivious host)
    (config : ReplayConfig) (capture : Capture) (tree : FileTree) (calls : List Call)
    (memo other : κ) :
    (replay config capture tree ((new setup memo).after calls)).1 =
        (replay config capture tree (new setup other)).1 ∧
      (replay config capture tree ((new setup memo).after calls)).2.1 =
        (replay config capture tree (new setup other)).2.1 := by
  exact replay_inStep (beside_new (setup_after (new setup memo) calls) other)
    (fun name host registered => (oblivious name host registered).actsBeside _) config capture tree

/-- A setup in which the captured kernel adds to the memory of two positions and notes what it
sees. -/
def Replay.notingSetup : Setup (List Probe) where
  hostKernel? name := if name = "f" then some (scripted [.add 0 1, .add 2 7, .probe 0]) else none
  arity? _ := some 7
  supportsRegions := true

theorem Replay.mixedCapture_unaffected_by_mixedCalls :
    let used := (new notingSetup []).after mixedCalls
    let replayed := replay { repetitions := 2, writeOutputs := false } mixedCapture .empty
    (replayed (new notingSetup [])).1.isOk ∧
      (replayed used).1 = (replayed (new notingSetup [])).1 ∧
      (used.counts .kernel, used.counts .memory, used.counts .region) = (1, 1, 1) := by
  have oblivious : ∀ name host, notingSetup.hostKernel? name = some host → Oblivious host := by
    intro name host registered
    by_cases named : name = "f"
    · obtain rfl := Option.some.inj ((if_pos named).symm.trans registered)
      exact oblivious_scripted _
    · cases (if_neg named).symm.trans registered
  obtain ⟨same, _⟩ := replay_unaffected_by_past oblivious
    { repetitions := 2, writeOutputs := false } mixedCapture .empty mixedCalls [] []
  exact ⟨by decide +kernel, same, by decide +kernel⟩

end LaunchReplay
