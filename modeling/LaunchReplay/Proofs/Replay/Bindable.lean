import LaunchReplay.Proofs.Replay.Slots
import LaunchReplay.Proofs.Replay.Steps
import LaunchReplay.Proofs.Simulator.WellBound

/-!
# Tables that can be bound

Binding by a resolved plan fails only for what a simulated device cannot do: the kernel declares
other arguments, regions are not supported, or an offset is past the end of its region. The count
of the arguments is compared at once, and each position with the count when it is bound; both
together leave no gap, so a kernel that was bound can be launched.
-/

namespace LaunchReplay

open Simulator

variable {κ : Type}

/-- The length of the longest content before the launch among the positions that share with one. -/
def ArgumentTable.IsLongest (table : ArgumentTable) (position longest : Nat) : Prop :=
  IsGreatest {length | ∃ other, table.Shares position other ∧
    (ArgumentTable.preState table other).length = length} longest

/-- What a table of arguments needs in order to be bound to a kernel. -/
structure Bindable (table : ArgumentTable) (setup : Setup κ) (name : String) : Prop where
  /-- The arguments that the kernel declares, if that is known, are as many, and at the positions
  from zero on without a gap. -/
  declared : ∀ arity, setup.arity? name = some arity → arity = table.size ∧ table.isContiguous
  /-- Regions are supported if one is needed. -/
  supported : ∀ position identity preState offset,
    table.get? position = some (.svm identity preState offset) → setup.supportsRegions
  /-- Each offset is within the longest content of those that share the region. -/
  within : ∀ position identity preState offset,
    table.get? position = some (.svm identity preState offset) →
      ∃ longest, table.IsLongest position longest ∧ offset ≤ longest

/-- What can stand in the way of binding a table, and how it is reported. -/
inductive Obstacle (table : ArgumentTable) (setup : Setup κ) (name : String) : ReplayError → Prop
  /-- Another number of arguments is declared. -/
  | count {declared : Nat} (known : setup.arity? name = some declared)
      (differs : declared ≠ table.size) :
      Obstacle table setup name (.arityMismatch declared table.size)
  /-- A region is needed. -/
  | region {position offset : Nat} {identity : Option Bytes} {preState : Bytes}
      (held : table.get? position = some (.svm identity preState offset))
      (lacking : setup.supportsRegions = false) :
      Obstacle table setup name (.device (.unsupported "shared virtual memory"))
  /-- A position is not declared. -/
  | position {declared position : Nat} {argument : Argument}
      (known : setup.arity? name = some declared) (held : table.get? position = some argument)
      (beyond : declared ≤ position) :
      Obstacle table setup name (.device (.binding position
        ("kernel declares " ++ Text.decimal declared ++ " arguments")))
  /-- An offset is past the end. -/
  | offset {position offset longest : Nat} {identity : Option Bytes} {preState : Bytes}
      (held : table.get? position = some (.svm identity preState offset))
      (greatest : table.IsLongest position longest) (beyond : longest < offset) :
      Obstacle table setup name (.device (.binding position
        ("offset " ++ Text.decimal offset ++ " past end of " ++ Text.decimal longest ++
          "-byte region")))

theorem Obstacle.not_bindable {table : ArgumentTable} {setup : Setup κ} {name : String}
    {error : ReplayError} (obstacle : Obstacle table setup name error) :
    ¬ Bindable table setup name := by
  intro bindable
  cases obstacle with
  | count known differs => exact differs (bindable.declared _ known).1
  | region held lacking => exact absurd (bindable.supported _ _ _ _ held) (by simp [lacking])
  | position known held beyond =>
      obtain ⟨rfl, contiguous⟩ := bindable.declared _ known
      have below := PositionMap.isContiguous_iff.mp contiguous _
        (PositionMap.mem_positions_iff.mpr ⟨_, held⟩)
      exact absurd below (Nat.not_lt.mpr beyond)
  | offset held greatest beyond =>
      obtain ⟨longest, other_greatest, within⟩ := bindable.within _ _ _ _ held
      obtain rfl := greatest.unique other_greatest
      exact absurd within (Nat.not_le.mpr beyond)

/-! ## Binding values -/

namespace Simulator

variable {state : Simulator κ} {handle : Handle .kernel} {position : Nat} {value : BoundValue}

theorem arity?_withArguments (state : Simulator κ) (handle : Handle .kernel)
    (values : List (Nat × BoundValue)) :
    (state.withArguments handle values).arity? handle = state.arity? handle := by
  simp only [Simulator.arity?, withArguments, List.getElem?_modify_eq]
  cases state.kernels[handle.index]? <;> rfl

/-- Whether a value is refused, and why, does not depend on what was bound before. -/
theorem checkBind_withArguments (values : List (Nat × BoundValue)) {cause : DeviceError} :
    (state.withArguments handle values).checkBind handle position value = .error cause ↔
      state.checkBind handle position value = .error cause := by
  have same_value : (state.withArguments handle values).checkValue position value =
      state.checkValue position value := rfl
  have same_position : (state.withArguments handle values).checkPosition handle position =
      state.checkPosition handle position := by
    rw [checkPosition, checkPosition, arity?_withArguments]
  have same_kernel : (state.withArguments handle values).kernel handle = .error cause ↔
      state.kernel handle = .error cause := by
    simp only [Simulator.kernel, withArguments, List.getElem?_modify_eq]
    cases state.kernels[handle.index]? <;> simp
  simp only [checkBind, Outcome.bind_error, same_value, same_position, same_kernel]

/-- A position is refused exactly if the kernel is known to declare fewer. -/
theorem checkPosition_cases {object : Kernel} (named : state.kernels[handle.index]? = some object)
    (position : Nat) :
    ((∀ declared, state.setup.arity? object.name = some declared → position < declared) ∧
      state.checkPosition handle position = .ok ()) ∨
    ∃ declared, state.setup.arity? object.name = some declared ∧ declared ≤ position ∧
      state.checkPosition handle position =
        .error (.binding position ("kernel declares " ++ Text.decimal declared ++ " arguments")) := by
  have asked : state.arity? handle = state.setup.arity? object.name := by
    rw [Simulator.arity?, named, Option.bind_some]
  rw [checkPosition, asked]
  cases known : state.setup.arity? object.name with
  | none => exact .inl ⟨by simp, rfl⟩
  | some declared =>
      by_cases below : position < declared
      · exact .inl ⟨fun other other_eq => Option.some.inj other_eq ▸ below, if_pos below⟩
      · exact .inr ⟨declared, rfl, Nat.not_lt.mp below, if_neg below⟩

end Simulator

/-- New memory is as long as the longest content of those that share it. -/
theorem SeededFor.isLongest {table : ArgumentTable} {position : Nat} {content : Bytes}
    (seeded : SeededFor table position content) : table.IsLongest position content.length := by
  obtain ⟨seed, longest, lowest, greatest, rfl⟩ := seeded
  have within : (ArgumentTable.preState table seed).length ≤ longest :=
    greatest.2 ⟨seed, lowest.1, rfl⟩
  rw [Bytes.length_extendTo, Nat.max_eq_left within]
  exact greatest

/-- The value of an argument is refused exactly if it is a region and the offset is past its end. -/
theorem Rebuilt.checkValue_cases {table : ArgumentTable} {values : PositionMap BoundValue}
    {before bound : Simulator κ} {position : Nat} {argument : Argument} {value : BoundValue}
    (rebuilt : Rebuilt table values before bound position argument value) :
    ((∀ identity preState offset, argument = .svm identity preState offset →
        ∃ longest, table.IsLongest position longest ∧ offset ≤ longest) ∧
      bound.checkValue position value = .ok ()) ∨
    ∃ identity preState offset longest, argument = .svm identity preState offset ∧
      table.IsLongest position longest ∧ longest < offset ∧
      bound.checkValue position value = .error (.binding position
        ("offset " ++ Text.decimal offset ++ " past end of " ++ Text.decimal longest ++
          "-byte region")) := by
  cases rebuilt with
  | scalar bytes => exact .inl ⟨by simp, rfl⟩
  | localMemory size => exact .inl ⟨by simp, rfl⟩
  | buffer fresh created seeded => exact .inl ⟨by simp, by simp [checkValue, created]⟩
  | image fresh created alone => exact .inl ⟨by simp, by simp [checkValue, created]⟩
  | sampler fresh created =>
      obtain ⟨within, _⟩ := List.getElem?_eq_some_iff.mp created
      exact .inl ⟨by simp, if_pos within⟩
  | @svm identity preState content offset handle fresh created seeded =>
      by_cases within : offset ≤ content.length
      · refine .inl ⟨?_, by simp [checkValue, created, within]⟩
        rintro _ _ _ ⟨⟩
        exact ⟨_, seeded.isLongest, within⟩
      · refine .inr ⟨identity, preState, offset, content.length, rfl, seeded.isLongest,
          Nat.not_le.mp within, by simp [checkValue, created, within]⟩

namespace Bindings

variable {table : ArgumentTable} {kernel : Handle .kernel} {targets : BindingTargets}

/-- Binding one entry ends as the checks of its value do. -/
theorem bindEntry_cases (before : Simulator κ) {entry : Nat × Argument} {value : BoundValue}
    (valued : targets.value entry = .ok value) :
    ((∃ object, before.checkBind kernel entry.1 value = .ok object) ∧
      bindEntry kernel targets entry before =
        (.ok (entry.1, value), before.withArguments kernel [(entry.1, value)])) ∨
    ∃ cause, before.checkBind kernel entry.1 value = .error cause ∧
      bindEntry kernel targets entry before = (.error (.device cause), before) := by
  rw [bindEntry, valued]
  cases checked : before.checkBind kernel entry.1 value with
  | ok object =>
      have answered : before.bind kernel entry.1 value =
          (.ok (), (before.bind kernel entry.1 value).2) := by
        simp only [Simulator.bind, checked]
      rw [bind_ok answered] at answered
      exact .inl ⟨⟨object, rfl⟩,
        DeviceM.bind_ok.mpr ⟨(), _, DeviceM.ask_ok.mpr answered, DeviceM.pure_ok.mpr ⟨rfl, rfl⟩⟩⟩
  | error cause =>
      refine .inr ⟨cause, rfl, DeviceM.bind_error.mpr (.inl ?_)⟩
      simp only [DeviceM.ask, perform_bind, Simulator.bind, checked]

/-- Entries that all have values are all bound, or one is refused for its value. -/
theorem mapM_bindEntry_cases (kernel : Handle .kernel) (before : Simulator κ)
    {entries : List (Nat × Argument)}
    (valued : ∀ entry ∈ entries, ∃ value, targets.value entry = .ok value) :
    ((∀ entry ∈ entries, ∀ value, targets.value entry = .ok value → ∀ cause,
        before.checkBind kernel entry.1 value ≠ .error cause) ∧
      ∃ values after, entries.mapM (bindEntry kernel targets) before = (.ok values, after)) ∨
    ∃ entry ∈ entries, ∃ value cause after, targets.value entry = .ok value ∧
      before.checkBind kernel entry.1 value = .error cause ∧
      entries.mapM (bindEntry kernel targets) before = (.error (.device cause), after) := by
  induction entries generalizing before with
  | nil => exact .inl ⟨by simp, [], before, rfl⟩
  | cons entry rest induction =>
      rw [List.forall_mem_cons] at valued
      obtain ⟨⟨value, here⟩, later⟩ := valued
      rw [List.mapM_cons]
      rcases bindEntry_cases before here with
        ⟨⟨object, checked⟩, bound⟩ | ⟨cause, refused, stopped⟩
      · rcases induction (before.withArguments kernel [(entry.1, value)]) later with
          ⟨checks, values, after, run⟩ | ⟨other, other_mem, found, cause, after, other_valued,
            refused, run⟩
        · refine .inl ⟨List.forall_mem_cons.mpr ⟨?_, ?_⟩, (entry.1, value) :: values, after, ?_⟩
          · intro other other_valued cause refused
            obtain rfl := Except.ok.inj (here.symm.trans other_valued)
            cases checked.symm.trans refused
          · intro other other_mem found found_valued cause refused
            exact checks other other_mem found found_valued cause
              ((checkBind_withArguments _).mpr refused)
          · exact DeviceM.bind_ok.mpr ⟨_, _, bound,
              DeviceM.bind_ok.mpr ⟨_, _, run, DeviceM.pure_ok.mpr ⟨rfl, rfl⟩⟩⟩
        · exact .inr ⟨other, List.mem_cons_of_mem _ other_mem, found, cause, after, other_valued,
            (checkBind_withArguments _).mp refused,
            DeviceM.bind_error.mpr (.inr ⟨_, _, bound, DeviceM.bind_error.mpr (.inl run)⟩)⟩
      · exact .inr ⟨entry, List.mem_cons_self, value, cause, before, here, refused,
          DeviceM.bind_error.mpr (.inl stopped)⟩

/-! ## Making objects -/

/-- An object can be made, unless it is a region and these are not supported. -/
theorem allocate_cases (before : Simulator κ) {object : Allocation}
    (inhabited : object.positions ≠ []) :
    ((∀ group, object = .region group → before.setup.supportsRegions) ∧
      ∃ assigned after, allocate table targets object before = (.ok assigned, after)) ∨
    (∃ group, object = .region group) ∧ before.setup.supportsRegions = false ∧
      allocate table targets object before =
        (.error (.device (.unsupported "shared virtual memory")), before) := by
  cases object with
  | buffer group =>
      replace inhabited : group.positions ≠ [] := inhabited
      rw [allocate, BufferGroup.representative?, seedOf_eq_pure inhabited, pure_bind]
      exact .inl ⟨by simp, _, _, DeviceM.bind_ok.mpr ⟨_, _, DeviceM.ask_ok.mpr rfl, rfl⟩⟩
  | region group =>
      replace inhabited : group.positions ≠ [] := inhabited
      rw [allocate, SvmGroup.representative?, seedOf_eq_pure inhabited, pure_bind]
      cases supported : before.setup.supportsRegions with
      | true =>
          have created := Allocation.perform_createRegion before
            (ArgumentTable.preState table (group.positions.headD 0)) (longest table group.positions)
          rw [createRegion, if_pos supported] at created
          exact .inl ⟨fun _ _ => rfl, _, _,
            DeviceM.bind_ok.mpr ⟨_, _, DeviceM.ask_ok.mpr created, rfl⟩⟩
      | false =>
          refine .inr ⟨⟨group, rfl⟩, rfl, DeviceM.bind_error.mpr (.inl ?_)⟩
          simp [DeviceM.ask, Allocation.perform_createRegion, createRegion, supported]
  | image position descriptor preState =>
      exact .inl ⟨by simp, _, _, DeviceM.bind_ok.mpr ⟨_, _, DeviceM.ask_ok.mpr rfl, rfl⟩⟩
  | sampler position descriptor =>
      exact .inl ⟨by simp, _, _, DeviceM.bind_ok.mpr ⟨_, _, DeviceM.ask_ok.mpr rfl, rfl⟩⟩

theorem foldlM_allocate_cases (table : ArgumentTable) (targets : BindingTargets)
    (before : Simulator κ) {objects : List Allocation}
    (inhabited : ∀ object ∈ objects, object.positions ≠ []) :
    ((∀ group, .region group ∈ objects → before.setup.supportsRegions) ∧
      ∃ assigned after,
        objects.foldlM (allocate table) targets before = (.ok assigned, after)) ∨
    (∃ group, .region group ∈ objects) ∧ before.setup.supportsRegions = false ∧
      ∃ after, objects.foldlM (allocate table) targets before =
        (.error (.device (.unsupported "shared virtual memory")), after) := by
  induction objects generalizing before targets with
  | nil => exact .inl ⟨by simp, targets, before, rfl⟩
  | cons object rest induction =>
      rw [List.forall_mem_cons] at inhabited
      rw [List.foldlM_cons]
      rcases allocate_cases before inhabited.1 with
        ⟨here, assigned, after, made⟩ | ⟨⟨group, rfl⟩, lacking, stopped⟩
      · obtain ⟨_, rfl, rfl⟩ := Allocation.allocate_ok made
        rcases induction _ (before.withObjects table [object]) inhabited.2 with
          ⟨later, filled, final, run⟩ | ⟨⟨group, group_mem⟩, lacking, final, run⟩
        · refine .inl ⟨fun group group_mem => ?_, _, _, DeviceM.bind_ok.mpr ⟨_, _, made, run⟩⟩
          rcases List.mem_cons.mp group_mem with same | group_mem
          · exact here group same.symm
          · exact later group group_mem
        · exact .inr ⟨⟨group, List.mem_cons_of_mem _ group_mem⟩, lacking, final,
            DeviceM.bind_error.mpr (.inr ⟨_, _, made, run⟩)⟩
      · exact .inr ⟨⟨group, List.mem_cons_self⟩, lacking, before,
          DeviceM.bind_error.mpr (.inl stopped)⟩

theorem checkArity_cases (before : Simulator κ) {object : Kernel}
    (named : before.kernels[kernel.index]? = some object) :
    ((∀ declared, before.setup.arity? object.name = some declared → declared = table.size) ∧
      checkArity table kernel before = (.ok (), before)) ∨
    ∃ declared, before.setup.arity? object.name = some declared ∧ declared ≠ table.size ∧
      checkArity table kernel before = (.error (.arityMismatch declared table.size), before) := by
  have asked : Device.arity? before kernel = before.setup.arity? object.name := by
    change before.arity? kernel = _
    rw [Simulator.arity?, named, Option.bind_some]
  cases known : before.setup.arity? object.name with
  | none =>
      exact .inl ⟨by simp, DeviceM.bind_ok.mpr
        ⟨none, before, DeviceM.arity?_ok.mpr ⟨asked.trans known, rfl⟩, rfl⟩⟩
  | some declared =>
      by_cases same : declared = table.size
      · refine .inl ⟨fun other other_eq => Option.some.inj other_eq ▸ same, DeviceM.bind_ok.mpr
          ⟨some declared, before, DeviceM.arity?_ok.mpr ⟨asked.trans known, rfl⟩, ?_⟩⟩
        simp only [if_pos same]
        rfl
      · refine .inr ⟨declared, rfl, same, DeviceM.bind_error.mpr
          (.inr ⟨some declared, before, DeviceM.arity?_ok.mpr ⟨asked.trans known, rfl⟩, ?_⟩)⟩
        simp only [if_neg same]
        rfl

/-! ## Binding the whole table -/

/-- With all objects there, the value of an argument is refused exactly if there is an obstacle. -/
theorem checkBind_cases {before : Simulator κ} {object : Kernel} {position : Nat}
    {argument : Argument} {value : BoundValue}
    (named : before.kernels[kernel.index]? = some object)
    (held : table.get? position = some argument)
    (supplied : Supplied table (.resolve table) before position argument value) :
    (((∀ declared, before.setup.arity? object.name = some declared → position < declared) ∧
        ∀ identity preState offset, argument = .svm identity preState offset →
          ∃ longest, table.IsLongest position longest ∧ offset ≤ longest) ∧
      (before.withObjects table (Allocation.all (.resolve table) table)).checkBind kernel position
        value = .ok object) ∨
    ∃ cause, Obstacle table before.setup object.name (.device cause) ∧
      (before.withObjects table (Allocation.all (.resolve table) table)).checkBind kernel position
        value = .error cause := by
  have rebuilt : Rebuilt table .empty before
      (before.withObjects table (Allocation.all (.resolve table) table)) position argument value :=
    rebuilt_of_supplied supplied rfl rfl rfl rfl held nofun
  have still_named : (before.withObjects table
      (Allocation.all (.resolve table) table)).kernels[kernel.index]? = some object := named
  rcases rebuilt.checkValue_cases with
    ⟨within, value_fits⟩ | ⟨identity, preState, offset, longest, rfl, greatest, beyond, refused⟩
  · rcases checkPosition_cases still_named position with
      ⟨below, position_fits⟩ | ⟨declared, known, beyond, refused⟩
    · exact .inl ⟨⟨below, within⟩, Outcome.bind_ok.mpr ⟨(), value_fits,
        Outcome.bind_ok.mpr ⟨(), position_fits, kernel_ok.mpr still_named⟩⟩⟩
    · exact .inr ⟨_, .position known held beyond, Outcome.bind_error.mpr
        (.inr ⟨(), value_fits, Outcome.bind_error.mpr (.inl refused)⟩)⟩
  · exact .inr ⟨_, .offset held greatest beyond, Outcome.bind_error.mpr (.inl refused)⟩

/-- Once all objects are made, each entry has the value that the objects for it give. -/
theorem exists_supplied_value (before : Simulator κ) {entry : Nat × Argument}
    (entry_mem : entry ∈ table.entries) :
    ∃ value, (BindingTargets.assign .empty
      (Allocation.allMembers table before (Allocation.all (.resolve table) table))).value entry =
        .ok value := by
  refine BindingTargets.exists_value_of_covers ?_ entry_mem
  rw [← Allocation.positions_allMembers _ before]
  exact BindingTargets.covers_assign _ _

/-- A table has what it needs if no step that binds it is refused. -/
theorem bindable_of_accepted {before : Simulator κ} {object : Kernel}
    (named : before.kernels[kernel.index]? = some object)
    (counted : ∀ declared, before.setup.arity? object.name = some declared → declared = table.size)
    (supported : ∀ group, .region group ∈ Allocation.all (.resolve table) table →
      before.setup.supportsRegions)
    (accepted : ∀ entry ∈ table.entries, ∀ value, (BindingTargets.assign .empty
        (Allocation.allMembers table before (Allocation.all (.resolve table) table))).value entry =
          .ok value → ∀ cause, (before.withObjects table
        (Allocation.all (.resolve table) table)).checkBind kernel entry.1 value ≠ .error cause) :
    Bindable table before.setup object.name := by
  have checked : ∀ position argument, table.get? position = some argument →
      (∀ declared, before.setup.arity? object.name = some declared → position < declared) ∧
        ∀ identity preState offset, argument = .svm identity preState offset →
          ∃ longest, table.IsLongest position longest ∧ offset ≤ longest := by
    intro position argument held
    have entry_mem := PositionMap.get?_eq_some_iff.mp held
    obtain ⟨value, valued⟩ := exists_supplied_value before entry_mem
    rcases checkBind_cases named held (supplied_of_value_ok held valued) with
      ⟨fits, _⟩ | ⟨cause, _, refused⟩
    · exact fits
    · exact absurd refused (accepted _ entry_mem value valued cause)
  refine ⟨fun arity known => ⟨counted arity known, ?_⟩,
    fun position identity preState offset held => ?_,
    fun position identity preState offset held => (checked position _ held).2 _ _ _ rfl⟩
  · refine PositionMap.isContiguous_iff.mpr fun position listed => ?_
    obtain ⟨argument, held⟩ := PositionMap.mem_positions_iff.mp listed
    rw [← counted arity known]
    exact (checked position argument held).1 arity known
  · obtain ⟨group, group_mem, _⟩ := AliasPlan.exists_svmGroup held
    exact supported group (by simp [Allocation.all, group_mem])

/-- A table is bound, or there is an obstacle. -/
theorem create_cases {before : Simulator κ} {object : Kernel}
    (named : before.kernels[kernel.index]? = some object) :
    (Bindable table before.setup object.name ∧
      ∃ bindings bound, create table (.resolve table) kernel before = (.ok bindings, bound)) ∨
    ∃ error after, Obstacle table before.setup object.name error ∧
      create table (.resolve table) kernel before = (.error error, after) := by
  have inhabited : ∀ made ∈ Allocation.all (.resolve table) table, made.positions ≠ [] :=
    fun made made_mem => (Allocation.isAliasClass_of_mem_all made_mem).nonempty
  rw [create]
  rcases checkArity_cases before named with
    ⟨counted, checked⟩ | ⟨declared, known, differs, stopped⟩
  · rcases foldlM_allocate_cases table .empty before inhabited with
      ⟨supported, targets, reached, made⟩ | ⟨⟨group, group_mem⟩, lacking, reached, stopped⟩
    · obtain ⟨_, rfl, rfl⟩ := Allocation.foldlM_allocate_ok made
      rcases mapM_bindEntry_cases kernel
          (before.withObjects table (Allocation.all (.resolve table) table))
          fun entry => exists_supplied_value before with
        ⟨accepted, values, after, run⟩ |
          ⟨⟨position, argument⟩, entry_mem, value, cause, after, valued, refused, run⟩
      · exact .inl ⟨bindable_of_accepted named counted supported accepted, _, _,
          DeviceM.bind_ok.mpr ⟨_, _, checked, DeviceM.bind_ok.mpr ⟨_, _, made,
            DeviceM.bind_ok.mpr ⟨_, _, run, rfl⟩⟩⟩⟩
      · have held := PositionMap.get?_eq_some_iff.mpr entry_mem
        rcases checkBind_cases named held (supplied_of_value_ok held valued) with
          ⟨_, accepted⟩ | ⟨other, obstacle, other_refused⟩
        · cases accepted.symm.trans refused
        · obtain rfl := Except.error.inj (other_refused.symm.trans refused)
          exact .inr ⟨_, _, obstacle, DeviceM.bind_error.mpr (.inr ⟨_, _, checked,
            DeviceM.bind_error.mpr (.inr ⟨_, _, made, DeviceM.bind_error.mpr (.inl run)⟩)⟩)⟩
    · obtain ⟨position, inside⟩ := List.exists_mem_of_ne_nil _ (inhabited _ group_mem)
      obtain ⟨argument, held, of_kind⟩ := Allocation.kind_of_mem_all group_mem inside
      cases argument <;> cases of_kind
      exact .inr ⟨_, _, .region held lacking, DeviceM.bind_error.mpr
        (.inr ⟨_, _, checked, DeviceM.bind_error.mpr (.inl stopped)⟩)⟩
  · exact .inr ⟨_, _, .count known differs, DeviceM.bind_error.mpr (.inl stopped)⟩

/-- Once a table is bound, no launch of the kernel is refused, whatever is called in between. -/
theorem exists_launch_after {before bound : Simulator κ} {object : Kernel}
    {values : PositionMap BoundValue} (named : before.kernels[kernel.index]? = some object)
    (bindable : Bindable table before.setup object.name)
    (binding : Bound table (.resolve table) kernel before values bound) (calls : List Call)
    (geometry : Geometry) :
    ∃ launched, perform (.launch kernel geometry) (bound.after calls) = (.ok (), launched) := by
  obtain ⟨later, found, completes⟩ := exists_kernel_after (binding.getElem?_kernels named) calls
  refine exists_launch found (fun arity known position below => completes.bound position ?_) geometry
  have setup_eq : (bound.after calls).setup = before.setup := by
    rw [setup_after, binding.after_eq]
    rfl
  rw [setup_eq, completes.name] at known
  obtain ⟨rfl, contiguous⟩ := bindable.declared arity known
  have listed : position ∈ values.positions := by
    rw [binding.positions_eq, PositionMap.isContiguous_iff_positions_eq.mp contiguous]
    exact List.mem_range.mpr below
  exact BindingTargets.covers_assign object.arguments values.entries position (.inr listed)

/-- Binding by the resolved plan succeeds exactly if the table has what it needs, reports else an
obstacle that is there, and never an error about the configuration. A kernel that was bound can be
launched with any index space, whatever is called in between. -/
theorem created_iff_bindable (table : ArgumentTable) (kernel : Handle .kernel)
    {before : Simulator κ} {object : Kernel}
    (named : before.kernels[kernel.index]? = some object) :
    ((create table (.resolve table) kernel before).1.isOk ↔
      Bindable table before.setup object.name) ∧
    (∀ error after, create table (.resolve table) kernel before = (.error error, after) →
      Obstacle table before.setup object.name error ∧ error ≠ .noRepetitions ∧
        ∀ kind position, error ≠ .noAllocation kind position) ∧
    ∀ bindings bound, create table (.resolve table) kernel before = (.ok bindings, bound) →
      ∀ calls geometry, ∃ launched,
        perform (.launch kernel geometry) (bound.after calls) = (.ok (), launched) := by
  rcases create_cases named with ⟨bindable, bindings, bound, run⟩ | ⟨error, after, obstacle, run⟩
  · rw [run]
    refine ⟨iff_of_true rfl bindable, nofun, ?_⟩
    rintro _ _ ⟨⟩ calls geometry
    obtain ⟨values, binding, _⟩ := create_ok run
    exact exists_launch_after named bindable binding calls geometry
  · rw [run]
    refine ⟨iff_of_false nofun obstacle.not_bindable, ?_, nofun⟩
    rintro _ _ ⟨⟩
    refine ⟨obstacle, ?_, ?_⟩
    · rintro rfl
      cases obstacle
    · rintro kind position rfl
      cases obstacle

/-- A device with a kernel that declares seven arguments. -/
def declaringDevice : Simulator Unit :=
  (new { stampingSetup with arity? := fun _ => some 7 } ()).after
    [.buildProgram (.source "f") "", .createKernel ⟨0⟩ "f"]

/-- Arguments of all kinds, the offset past the end of the region. -/
def overreachingTable : ArgumentTable :=
  mixedTable.insert 4 (.svm none [6, 6] 3)

theorem created_iff_bindable_mixedTable :
    declaringDevice.kernels[0]? = some ⟨"f", .empty⟩ ∧
      Bindable mixedTable declaringDevice.setup "f" ∧
      ¬ Bindable overreachingTable declaringDevice.setup "f" ∧
      ∃ bindings bound,
        create mixedTable (.resolve mixedTable) ⟨0⟩ declaringDevice = (.ok bindings, bound) ∧
        ∀ geometry, ∃ launched,
          perform (.launch ⟨0⟩ geometry) (bound.after [.launch ⟨0⟩ geometry]) =
            (.ok (), launched) := by
  have fresh : declaringDevice.kernels[0]? = some ⟨"f", .empty⟩ := by decide +kernel
  have accepted : (create mixedTable (.resolve mixedTable) ⟨0⟩ declaringDevice).1.isOk := by
    decide +kernel
  obtain ⟨succeeds, _, launches⟩ := created_iff_bindable mixedTable ⟨0⟩ fresh
  obtain ⟨overreaches, _, _⟩ := created_iff_bindable overreachingTable ⟨0⟩ fresh
  obtain ⟨bindings, bound, created⟩ := DeviceM.exists_of_isOk accepted
  exact ⟨fresh, succeeds.mp accepted, overreaches.not.mp (by decide +kernel), bindings, bound,
    created, fun geometry => launches bindings bound created [.launch ⟨0⟩ geometry] geometry⟩

end Bindings

end LaunchReplay
