import LaunchReplay.Proofs.Outcome
import LaunchReplay.Proofs.Replay.Allocation
import LaunchReplay.Proofs.Simulator.Launch

/-!
# Binding on a simulated device

When all objects are there, every argument of the table is bound once, in ascending position. A
position is bound to the last object that was made for it: to its own, if its argument is an image
or a sampler, and else to that of a group.
-/

namespace LaunchReplay

open Simulator

variable {κ : Type}

/-- A simulated device with some values bound to a kernel, one after the other. -/
def Simulator.withArguments (state : Simulator κ) (kernel : Handle .kernel)
    (values : List (Nat × BoundValue)) : Simulator κ :=
  { state with
    kernels := state.kernels.modify kernel.index fun object =>
      { object with
        arguments :=
          values.foldl (fun bound value => bound.insert value.1 value.2) object.arguments } }

namespace Simulator

variable {state after : Simulator κ} {kernel : Handle .kernel}

theorem withArguments_nil (state : Simulator κ) (kernel : Handle .kernel) :
    state.withArguments kernel [] = state := by
  obtain ⟨setup, programs, kernels, store, samplers, builds, launches, memo⟩ := state
  have unchanged : (kernels.modify kernel.index fun object => object) = kernels :=
    List.modify_id kernel.index kernels
  exact congrArg (Simulator.mk setup programs · store samplers builds launches memo) unchanged

theorem withArguments_append (state : Simulator κ) (kernel : Handle .kernel)
    (early late : List (Nat × BoundValue)) :
    state.withArguments kernel (early ++ late) =
      (state.withArguments kernel early).withArguments kernel late := by
  simp only [withArguments, List.foldl_append, List.modify_modify_eq]
  rfl

theorem kernels_withArguments {name : String} (values : PositionMap BoundValue)
    (fresh : state.kernels[kernel.index]? = some ⟨name, .empty⟩) :
    (state.withArguments kernel values.entries).kernels[kernel.index]? = some ⟨name, values⟩ := by
  have bound := values.ofList_entries
  rw [PositionMap.ofList] at bound
  simp [withArguments, fresh, bound]

theorem checkBind_ok {position : Nat} {value : BoundValue} {object : Kernel}
    (accepted : state.checkBind kernel position value = .ok object) :
    state.checkValue position value = .ok () ∧ state.checkPosition kernel position = .ok () ∧
      state.kernels[kernel.index]? = some object := by
  obtain ⟨_, value_fits, accepted⟩ := Outcome.bind_ok.mp accepted
  obtain ⟨_, position_fits, accepted⟩ := Outcome.bind_ok.mp accepted
  exact ⟨value_fits, position_fits, kernel_ok.mp accepted⟩

/-- A value that is bound is added to the arguments of the kernel. -/
theorem bind_ok {position : Nat} {value : BoundValue}
    (accepted : state.bind kernel position value = (.ok (), after)) :
    after = state.withArguments kernel [(position, value)] := by
  rw [Simulator.bind] at accepted
  split at accepted
  · cases accepted
  · rename_i object checked
    obtain ⟨_, _, named⟩ := checkBind_ok checked
    obtain ⟨within, found⟩ := List.getElem?_eq_some_iff.mp named
    cases accepted
    have replaced : state.kernels.set kernel.index
        { object with arguments := object.arguments.insert position value } =
        state.kernels.modify kernel.index fun other =>
          { other with arguments := other.arguments.insert position value } := by
      rw [List.modify_eq_set_getElem?, named]
      rfl
    exact congrArg (fun kernels => { state with kernels }) replaced

theorem perform_bind (state : Simulator κ) (kernel : Handle .kernel) (position : Nat)
    (value : BoundValue) :
    Device.perform (.bind kernel position value) state = state.bind kernel position value := rfl

end Simulator

namespace Bindings

variable {table : ArgumentTable} {plan : AliasPlan} {kernel : Handle .kernel}
  {targets : BindingTargets} {before after : Simulator κ}

theorem bindEntry_ok {entry : Nat × Argument} {value : Nat × BoundValue}
    (run : bindEntry kernel targets entry before = (.ok value, after)) :
    value.1 = entry.1 ∧ targets.value entry = .ok value.2 ∧
      after = before.withArguments kernel [value] := by
  rw [bindEntry] at run
  cases valued : targets.value entry with
  | error error =>
    rw [valued] at run
    exact (DeviceM.throw_ok run).elim
  | ok found =>
    rw [valued] at run
    obtain ⟨_, middle, asked, run⟩ := DeviceM.bind_ok.mp run
    obtain ⟨rfl, rfl⟩ := DeviceM.pure_ok.mp run
    rw [DeviceM.ask_ok, perform_bind] at asked
    exact ⟨rfl, rfl, Simulator.bind_ok asked⟩

/-- Entries that are all bound are bound in order, each to what its argument is to be bound to. -/
theorem mapM_bindEntry_ok {entries : List (Nat × Argument)} {values : List (Nat × BoundValue)}
    (run : entries.mapM (bindEntry kernel targets) before = (.ok values, after)) :
    List.Forall₂ (fun entry value => value.1 = entry.1 ∧ targets.value entry = .ok value.2)
        entries values ∧
      after = before.withArguments kernel values := by
  induction entries generalizing before values with
  | nil =>
      rw [List.mapM_nil] at run
      obtain ⟨rfl, rfl⟩ := DeviceM.pure_ok.mp run
      exact ⟨.nil, (before.withArguments_nil kernel).symm⟩
  | cons entry rest induction =>
      rw [List.mapM_cons] at run
      obtain ⟨value, middle, first, run⟩ := DeviceM.bind_ok.mp run
      obtain ⟨others, final, remaining, run⟩ := DeviceM.bind_ok.mp run
      obtain ⟨rfl, rfl⟩ := DeviceM.pure_ok.mp run
      obtain ⟨same, valued, rfl⟩ := bindEntry_ok first
      obtain ⟨related, rfl⟩ := induction remaining
      exact ⟨.cons ⟨same, valued⟩ related,
        (before.withArguments_append kernel [value] others).symm⟩

/-- How the arguments of a table came to be bound on a simulated device. -/
structure Bound (table : ArgumentTable) (plan : AliasPlan) (kernel : Handle .kernel)
    (before : Simulator κ) (values : PositionMap BoundValue) (after : Simulator κ) : Prop where
  /-- No group is empty. -/
  inhabited : ∀ object ∈ Allocation.all plan table, object.positions ≠ []
  /-- Each argument has the value that the objects made for it give. -/
  related : List.Forall₂
    (fun entry value => value.1 = entry.1 ∧
      (BindingTargets.assign .empty
        (Allocation.allMembers table before (Allocation.all plan table))).value entry =
          .ok value.2)
    table.entries values.entries
  /-- All objects are there, and all values are bound. -/
  after_eq : after =
    (before.withObjects table (Allocation.all plan table)).withArguments kernel values.entries

theorem checkArity_ok
    (checked : checkArity table kernel before = (.ok (), after)) : after = before := by
  obtain ⟨declared, middle, asked, checked⟩ := DeviceM.bind_ok.mp checked
  obtain ⟨_, rfl⟩ := DeviceM.arity?_ok.mp asked
  split at checked
  · split at checked
    · exact (DeviceM.pure_ok.mp checked).2.symm
    · exact (DeviceM.throw_ok checked).elim
  · exact (DeviceM.pure_ok.mp checked).2.symm

theorem create_ok {bindings : Bindings}
    (created : create table plan kernel before = (.ok bindings, after)) :
    ∃ values, Bound table plan kernel before values after ∧
      bindings =
        { bound := values.size
          allocations := ((Allocation.all plan table).filter Allocation.hasMemory).length
          outputs := values.entries.filterMap (slot? table) } := by
  obtain ⟨_, middle, checked, rest⟩ := DeviceM.bind_ok.mp created
  rw [checkArity_ok checked] at rest
  obtain ⟨targets, filled, made, rest⟩ := DeviceM.bind_ok.mp rest
  obtain ⟨inhabited, rfl, rfl⟩ := Allocation.foldlM_allocate_ok made
  obtain ⟨listed, final, bound, finished⟩ := DeviceM.bind_ok.mp rest
  obtain ⟨related, rfl⟩ := mapM_bindEntry_ok bound
  obtain ⟨rfl, rfl⟩ := DeviceM.pure_ok.mp finished
  obtain ⟨values, rfl⟩ := PositionMap.exists_map_of_related related
  exact ⟨values, ⟨inhabited, related, rfl⟩, rfl⟩

end Bindings

/-! ## What a position is bound to -/

namespace Allocation

variable {table : ArgumentTable} {plan : AliasPlan} {state : Simulator κ}
  {before : List Allocation} {object : Allocation} {position : Nat} {value : BoundValue}
  {argument : Argument}

/-- The objects for the groups of a plan. -/
def grouped (plan : AliasPlan) : List Allocation :=
  plan.bufferGroups.map .buffer ++ plan.svmGroups.map .region

theorem positions_of_own {entry : Nat × Argument} {own : Allocation}
    (made : ofEntry? entry = some own) : own.positions = [entry.1] := by
  obtain ⟨place, argument⟩ := entry
  cases argument <;> cases made <;> rfl

/-- Among the objects that arguments have for themselves, one is made for a position at most. -/
theorem own_of_mem_positions (held : table.get? position = some argument)
    (made : object ∈ table.entries.filterMap ofEntry?) (inside : position ∈ object.positions) :
    ofEntry? (position, argument) = some object := by
  obtain ⟨⟨place, other⟩, entry_mem, made⟩ := List.mem_filterMap.mp made
  rw [positions_of_own made] at inside
  obtain rfl : position = place := by simpa using inside
  rw [← PositionMap.get?_eq_some_iff, held] at entry_mem
  obtain rfl := Option.some.inj entry_mem
  exact made

/-- An argument with an object for itself is bound to that, whatever the groups of the plan are. -/
theorem Owns.eq_own {own : Allocation}
    (owns : Owns table state (all plan table) before object position value)
    (held : table.get? position = some argument)
    (made : ofEntry? (position, argument) = some own) : object = own := by
  have own_mem : own ∈ table.entries.filterMap ofEntry? :=
    List.mem_filterMap.mpr ⟨_, PositionMap.get?_eq_some_iff.mp held, made⟩
  have own_inside : position ∈ own.positions := by simp [positions_of_own made]
  obtain ⟨after, split, last⟩ := owns.last
  have object_mem : object ∈ table.entries.filterMap ofEntry? := by
    rcases List.append_eq_append_iff.mp (show grouped plan ++ _ = _ from split) with
      ⟨gap, rfl, rest_eq⟩ | ⟨gap, _, rest_eq⟩
    · simp [rest_eq]
    · cases gap with
      | nil =>
          have rest_eq : object :: after = table.entries.filterMap ofEntry? := rest_eq
          rw [← rest_eq]
          exact List.mem_cons_self
      | cons head gap =>
          -- The object is that of a group, so that of the argument would come later.
          obtain ⟨rfl, rfl⟩ := List.cons.inj rest_eq
          exact absurd own_inside (last own (by simp [own_mem]))
  have made_object := own_of_mem_positions held object_mem owns.position_mem
  exact Option.some.inj (made_object.symm.trans made)

/-- An argument without an object for itself is bound to that of a group. -/
theorem Owns.mem_grouped
    (owns : Owns table state (all plan table) before object position value)
    (held : table.get? position = some argument)
    (unmade : ofEntry? (position, argument) = none) : object ∈ grouped plan := by
  rcases List.mem_append.mp (show object ∈ grouped plan ++ _ from owns.mem) with shared | own
  · exact shared
  · have made := own_of_mem_positions held own owns.position_mem
    cases unmade.symm.trans made

end Allocation

/-- What the argument at a position is bound to once all objects for a table are made. -/
inductive Supplied (table : ArgumentTable) (plan : AliasPlan) (state : Simulator κ)
    (position : Nat) : Argument → BoundValue → Prop
  /-- A plain value as it was captured. -/
  | scalar (bytes : Bytes) : Supplied table plan state position (.scalar bytes) (.scalar bytes)
  /-- Local memory of the captured size. -/
  | localMemory (size : Nat) :
      Supplied table plan state position (.localMemory size) (.localMemory size)
  /-- A buffer or region: what the object of a group gives. -/
  | shared {argument : Argument} {value : BoundValue} {before : List Allocation}
      {object : Allocation} (sharable : argument.kind = .buffer ∨ argument.kind = .svm)
      (grouped : object ∈ Allocation.grouped plan)
      (owns : Allocation.Owns table state (Allocation.all plan table) before object position
        value) :
      Supplied table plan state position argument value
  /-- An image: its own object. -/
  | image {descriptor : ImageDescriptor} {preState : Bytes} {value : BoundValue}
      {before : List Allocation}
      (owns : Allocation.Owns table state (Allocation.all plan table) before
        (.image position descriptor preState) position value) :
      Supplied table plan state position (.image descriptor preState) value
  /-- A sampler: its own object. -/
  | sampler {descriptor : SamplerDescriptor} {value : BoundValue} {before : List Allocation}
      (owns : Allocation.Owns table state (Allocation.all plan table) before
        (.sampler position descriptor) position value) :
      Supplied table plan state position (.sampler descriptor) value

namespace Bindings

variable {table : ArgumentTable} {plan : AliasPlan} {kernel : Handle .kernel}
  {before after : Simulator κ} {values : PositionMap BoundValue} {position : Nat}

/-- An argument that is not bound as it was captured is bound to the target of its position. -/
theorem get?_of_value_ok {targets : BindingTargets} {argument : Argument} {value : BoundValue}
    (needed : argument.kind ≠ .scalar ∧ argument.kind ≠ .localMemory)
    (valued : targets.value (position, argument) = .ok value) :
    targets.get? position = some value := by
  cases held : targets.get? position <;> cases argument <;>
    simp_all [BindingTargets.value, Argument.kind]

theorem exists_owns_of_target {objects : List Allocation} {value : BoundValue}
    (found : (BindingTargets.assign .empty (Allocation.allMembers table before objects)).get?
      position = some value) :
    ∃ earlier object, Allocation.Owns table before objects earlier object position value := by
  rw [BindingTargets.assign, PositionMap.get?_foldl_insert, PositionMap.get?_empty,
    Option.or_none] at found
  exact Allocation.exists_owns found

/-- Once all objects are made, the value of an argument is what those for its position give. -/
theorem supplied_of_value_ok {argument : Argument} {value : BoundValue}
    (held : table.get? position = some argument)
    (valued : (BindingTargets.assign .empty
      (Allocation.allMembers table before (Allocation.all plan table))).value
        (position, argument) = .ok value) :
    Supplied table plan before position argument value := by
  cases argument with
  | scalar bytes =>
      cases valued
      exact .scalar bytes
  | localMemory size =>
      cases valued
      exact .localMemory size
  | buffer identity preState | svm identity preState offset =>
      obtain ⟨earlier, object, owns⟩ :=
        exists_owns_of_target (get?_of_value_ok (by simp [Argument.kind]) valued)
      exact .shared (by simp [Argument.kind]) (owns.mem_grouped held rfl) owns
  | image descriptor preState =>
      obtain ⟨earlier, object, owns⟩ :=
        exists_owns_of_target (get?_of_value_ok (by simp [Argument.kind]) valued)
      obtain rfl := owns.eq_own held rfl
      exact .image owns
  | sampler descriptor =>
      obtain ⟨earlier, object, owns⟩ :=
        exists_owns_of_target (get?_of_value_ok (by simp [Argument.kind]) valued)
      obtain rfl := owns.eq_own held rfl
      exact .sampler owns

/-- Exactly the positions of the table are bound. -/
theorem Bound.positions_eq (bound : Bound table plan kernel before values after) :
    values.positions = table.positions := by
  have related := bound.related
  rw [PositionMap.positions, PositionMap.positions]
  generalize table.entries = entries at related
  generalize values.entries = listed at related
  induction related with
  | nil => rfl
  | cons first _ induction => rw [List.map_cons, List.map_cons, first.1, induction]

/-- The kernel keeps its name, and has the values beside or in place of those it had. -/
theorem Bound.getElem?_kernels {object : Kernel}
    (bound : Bound table plan kernel before values after)
    (named : before.kernels[kernel.index]? = some object) :
    after.kernels[kernel.index]? =
      some ⟨object.name, BindingTargets.assign object.arguments values.entries⟩ := by
  simp only [bound.after_eq, withArguments, withObjects, List.getElem?_modify_eq, named]
  rfl

theorem Bound.exists_argument {value : BoundValue}
    (bound : Bound table plan kernel before values after)
    (found : values.get? position = some value) :
    ∃ argument, table.get? position = some argument ∧
      Supplied table plan before position argument value := by
  obtain ⟨⟨place, argument⟩, entry_mem, rfl, valued⟩ :=
    Outcome.exists_of_mem_of_forall₂ bound.related (PositionMap.get?_eq_some_iff.mp found)
  have held := PositionMap.get?_eq_some_iff.mpr entry_mem
  exact ⟨argument, held, supplied_of_value_ok held valued⟩

theorem Bound.exists_value {argument : Argument}
    (bound : Bound table plan kernel before values after)
    (held : table.get? position = some argument) :
    ∃ value, values.get? position = some value ∧
      Supplied table plan before position argument value := by
  obtain ⟨value, found⟩ := PositionMap.mem_positions_iff.mp
    (bound.positions_eq ▸ PositionMap.mem_positions_iff.mpr ⟨argument, held⟩)
  obtain ⟨other, other_held, supplied⟩ := bound.exists_argument found
  obtain rfl := Option.some.inj (held.symm.trans other_held)
  exact ⟨value, found, supplied⟩

end Bindings

end LaunchReplay
