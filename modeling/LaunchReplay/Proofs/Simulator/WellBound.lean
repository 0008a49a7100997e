import LaunchReplay.Proofs.Simulator.Objects

/-!
# Bindings of a simulated device

A value is bound only if it fits the objects that are there, and those last. So after any calls,
whatever came of each, everything that is bound to a kernel names an object of its own kind, a
launch finds memory behind exactly those positions that are bound to memory, and a handle is never
handed out twice.
-/

namespace LaunchReplay

/-- Whether a bound value is of a kind that has memory. -/
def BoundValue.HasMemory (value : BoundValue) : Prop :=
  value.kind = .buffer ∨ value.kind = .image ∨ value.kind = .svm

namespace Simulator

variable {κ : Type}

/-! ## Sequences of calls -/

/-- The device after some calls, whatever came of each. -/
def after (state : Simulator κ) (calls : List Call) : Simulator κ :=
  calls.foldl (fun reached call => (perform call reached).2) state

/-- What each of some calls keeps, all of them keep. -/
theorem after_invariant (invariant : Simulator κ → Prop) {calls : List Call}
    (kept : ∀ call ∈ calls, ∀ state, invariant state → invariant (perform call state).2)
    {state : Simulator κ} (start : invariant state) : invariant (state.after calls) := by
  induction calls generalizing state with
  | nil => exact start
  | cons call rest induction =>
      rw [List.forall_mem_cons] at kept
      exact induction kept.2 (kept.1 state start)

theorem outlasts_after (state : Simulator κ) (calls : List Call) :
    Outlasts state (state.after calls) :=
  after_invariant (Outlasts state)
    (fun call _ reached outlasts => outlasts.trans (perform_change call reached).outlasts)
    (.refl state)

theorem setup_after (state : Simulator κ) (calls : List Call) :
    (state.after calls).setup = state.setup :=
  after_invariant (fun reached => reached.setup = state.setup)
    (fun call _ reached same => (perform_change call reached).setup.trans same) rfl

/-! ## What is bound fits -/

/-- Whether everything that is bound to a kernel fits the objects of the device, at a position that
the kernel declares. -/
structure WellBound (state : Simulator κ) : Prop where
  /-- Every value names objects of its own kind. -/
  fits : ∀ kernel ∈ state.kernels, ∀ position value,
    kernel.arguments.get? position = some value → state.Fits value
  /-- Every position is below the number of declared arguments, if that is known. -/
  declared : ∀ kernel ∈ state.kernels, ∀ position value,
    kernel.arguments.get? position = some value →
      ∀ arity, state.setup.arity? kernel.name = some arity → position < arity

theorem wellBound_new (setup : Setup κ) (memo : κ) : WellBound (new setup memo) :=
  ⟨nofun, nofun⟩

/-- Kernels that are as they were, or have nothing bound to them, keep a device well bound. -/
theorem WellBound.of_kernels {before after : Simulator κ} (formed : before.WellBound)
    (setup : after.setup = before.setup) (outlasts : Outlasts before after)
    (kernels : ∀ kernel ∈ after.kernels, kernel ∈ before.kernels ∨ kernel.arguments = .empty) :
    after.WellBound := by
  refine ⟨fun kernel kernel_mem position value held => ?_,
    fun kernel kernel_mem position value held arity known => ?_⟩
  · rcases kernels kernel kernel_mem with old | fresh
    · exact (formed.fits kernel old position value held).outlast outlasts
    · cases (fresh ▸ held : PositionMap.empty.get? position = some value)
  · rcases kernels kernel kernel_mem with old | fresh
    · exact formed.declared kernel old position value held arity (setup ▸ known)
    · cases (fresh ▸ held : PositionMap.empty.get? position = some value)

theorem position_lt_of_checkPosition {state : Simulator κ} {handle : Handle .kernel}
    {object : Kernel} {position arity : Nat} (named : state.kernels[handle.index]? = some object)
    (accepted : state.checkPosition handle position = .ok ())
    (known : state.setup.arity? object.name = some arity) : position < arity := by
  have declared : state.arity? handle = some arity := by simp [Simulator.arity?, named, known]
  rw [checkPosition, declared] at accepted
  dsimp only at accepted
  split at accepted
  · assumption
  · cases accepted

/-- Binding a value that passed all checks keeps a device well bound. -/
theorem WellBound.withArguments {state : Simulator κ} (formed : state.WellBound)
    {handle : Handle .kernel} {position : Nat} {value : BoundValue} {object : Kernel}
    (accepted : state.checkBind handle position value = .ok object) :
    (state.withArguments handle [(position, value)]).WellBound := by
  obtain ⟨value_accepted, position_accepted, named⟩ := checkBind_ok accepted
  have fits := fits_of_checkValue value_accepted
  have outlasts : Outlasts state (state.withArguments handle [(position, value)]) :=
    (Change.bound accepted).outlasts
  -- A kernel is as it was, or it is the one that the value was bound to.
  have kernels : ∀ kernel ∈ (state.withArguments handle [(position, value)]).kernels,
      kernel ∈ state.kernels ∨
        kernel = { object with arguments := object.arguments.insert position value } := by
    intro kernel kernel_mem
    obtain ⟨place, found⟩ := List.mem_iff_getElem?.mp kernel_mem
    simp only [Simulator.withArguments, List.getElem?_modify] at found
    obtain ⟨old, old_found, rfl⟩ := Option.map_eq_some_iff.mp found
    by_cases here : handle.index = place
    · subst here
      obtain rfl := Option.some.inj (named.symm.trans old_found)
      exact .inr (if_pos rfl)
    · exact .inl (by simpa [here] using List.mem_of_getElem? old_found)
  have object_mem := List.mem_of_getElem? named
  refine ⟨fun kernel kernel_mem place other held => ?_,
    fun kernel kernel_mem place other held arity known => ?_⟩
  · rcases kernels kernel kernel_mem with old | rfl
    · exact (formed.fits kernel old place other held).outlast outlasts
    · rw [PositionMap.get?_insert] at held
      split at held
      · cases held
        exact fits.outlast outlasts
      · exact (formed.fits object object_mem place other held).outlast outlasts
  · rcases kernels kernel kernel_mem with old | rfl
    · exact formed.declared kernel old place other held arity known
    · rw [PositionMap.get?_insert] at held
      split at held
      · rename_i same
        exact same ▸ position_lt_of_checkPosition named position_accepted known
      · exact formed.declared object object_mem place other held arity known

theorem WellBound.of_change {before after : Simulator κ} (formed : before.WellBound)
    (change : Change before after) : after.WellBound := by
  have outlasts := change.outlasts
  cases change with
  | kept setup kernels _ =>
      exact formed.of_kernels setup outlasts fun kernel kernel_mem => .inl (kernels ▸ kernel_mem)
  | created created =>
      refine formed.of_kernels created.setup outlasts fun kernel kernel_mem => ?_
      rcases created.kernels with same | ⟨name, added⟩
      · exact .inl (same ▸ kernel_mem)
      · rw [added, List.mem_append, List.mem_singleton] at kernel_mem
        rcases kernel_mem with old | rfl
        · exact .inl old
        · exact .inr rfl
  | bound accepted => exact formed.withArguments accepted

theorem wellBound_after (setup : Setup κ) (memo : κ) (calls : List Call) :
    ((new setup memo).after calls).WellBound :=
  after_invariant WellBound
    (fun call _ state formed => formed.of_change (perform_change call state))
    (wellBound_new setup memo)

/-! ## What is bound stays bound -/

/-- Whether a kernel is an earlier one, with values at all positions that had one. -/
structure Kernel.Completes (before after : Kernel) : Prop where
  /-- The entry point is the same. -/
  name : after.name = before.name
  /-- No position has lost its value, though it may have another. -/
  bound : ∀ position, (before.arguments.get? position).isSome →
    (after.arguments.get? position).isSome

theorem Kernel.Completes.refl (object : Kernel) : object.Completes object :=
  ⟨rfl, fun _ => id⟩

theorem Kernel.Completes.bind {before after : Kernel} (completes : before.Completes after)
    (position : Nat) (value : BoundValue) :
    before.Completes { after with arguments := after.arguments.insert position value } where
  name := completes.name
  bound place held := by
    rw [PositionMap.get?_insert]
    split
    · rfl
    · exact completes.bound place held

theorem Change.exists_kernel {before after : Simulator κ} (change : Change before after)
    {handle : Handle .kernel} {origin object : Kernel}
    (named : before.kernels[handle.index]? = some object) (completes : origin.Completes object) :
    ∃ later, after.kernels[handle.index]? = some later ∧ origin.Completes later := by
  cases change with
  | kept _ kernels _ => exact ⟨object, kernels ▸ named, completes⟩
  | created created =>
      rcases created.kernels with same | ⟨name, added⟩
      · exact ⟨object, same ▸ named, completes⟩
      · obtain ⟨within, _⟩ := List.getElem?_eq_some_iff.mp named
        rw [added, List.getElem?_append_left within]
        exact ⟨object, named, completes⟩
  | @bound other position value _ _ =>
      simp only [Simulator.withArguments, List.getElem?_modify, named, Option.map_eq_map,
        Option.map_some]
      by_cases here : other.index = handle.index
      · rw [if_pos here]
        exact ⟨_, rfl, completes.bind position value⟩
      · rw [if_neg here]
        exact ⟨_, rfl, completes⟩

/-- After any calls a kernel still has values at all positions that had one. -/
theorem exists_kernel_after {state : Simulator κ} {handle : Handle .kernel} {object : Kernel}
    (named : state.kernels[handle.index]? = some object) (calls : List Call) :
    ∃ later, (state.after calls).kernels[handle.index]? = some later ∧ object.Completes later := by
  refine after_invariant
    (fun reached => ∃ later, reached.kernels[handle.index]? = some later ∧ object.Completes later)
    ?_ ⟨object, named, .refl object⟩
  rintro call _ reached ⟨later, found, completes⟩
  exact (perform_change call reached).exists_kernel found completes

/-- A kernel with values at all declared positions can be launched. -/
theorem exists_launch {state : Simulator κ} {handle : Handle .kernel} {object : Kernel}
    (named : state.kernels[handle.index]? = some object)
    (complete : ∀ arity, state.setup.arity? object.name = some arity → ∀ position < arity,
      (object.arguments.get? position).isSome) (geometry : Geometry) :
    ∃ after, perform (.launch handle geometry) state = (.ok (), after) := by
  have checked : state.checkLaunch handle = .ok object := by
    refine checkLaunch_ok.mpr ⟨named, fun arity known => Nat.not_lt.mp fun gap => ?_⟩
    have bound := complete arity known _ gap
    rw [object.arguments.isLeast_firstGap.1] at bound
    cases bound
  rcases state.launch_cases handle geometry with ⟨error, refused⟩ | ⟨_, _, accepted⟩
  · simp [Simulator.launch, checked] at refused
  · exact ⟨_, accepted⟩

/-! ## What a launch finds -/

/-- The stores that a launch passes through, from the first to the last. -/
def HostProgram.stores (geometry : Geometry) (arguments : PositionMap BoundValue) :
    HostProgram κ → Store → List Store
  | halt _, store => [store]
  | write position start patch next, store =>
    store ::
      match arguments.get? position with
      | some value => next.stores geometry arguments (store.write value start patch)
      | none => next.stores geometry arguments store
  | observe next, store =>
    (next (.ofStore geometry arguments store)).stores geometry arguments store

/-- What a launch of a kernel has to show its host kernel, at each moment. -/
def views (state : Simulator κ) (kernel : Kernel) (geometry : Geometry) : List LaunchView :=
  match state.setup.hostKernel? kernel.name with
  | some host =>
    ((host state.memo).stores geometry kernel.arguments state.store).map
      (.ofStore geometry kernel.arguments)
  | none => []

theorem HostProgram.sameShape_of_mem_stores {geometry : Geometry}
    {arguments : PositionMap BoundValue} {program : HostProgram κ} {store passed : Store}
    (passed_mem : passed ∈ program.stores geometry arguments store) : store.SameShape passed := by
  induction program generalizing store with
  | halt memo =>
      obtain rfl := List.mem_singleton.mp passed_mem
      exact .refl _
  | write position start patch next induction =>
      rw [stores, List.mem_cons] at passed_mem
      rcases passed_mem with rfl | later
      · exact .refl _
      · split at later
        · rename_i value _
          exact (store.write_sameShape value start patch).trans (induction later)
        · exact induction later
  | observe next induction => exact induction _ passed_mem

/-- A value that fits has memory behind it exactly if it is of a kind that has memory, whatever has
been written since. -/
theorem Fits.content?_isSome_iff {state : Simulator κ} {value : BoundValue}
    (fits : state.Fits value) {store : Store} (same : state.store.SameShape store) :
    (store.content? value).isSome ↔ value.HasMemory := by
  have still_there : ∀ object bytes, state.store.bytes? object = some bytes →
      ∃ other, store.bytes? object = some other ∧ other.length = bytes.length := by
    intro object bytes held
    have lengths := same.length object
    rw [held] at lengths
    exact Option.map_eq_some_iff.mp lengths
  cases fits.names with
  | scalar bytes => simp [Store.content?, BoundValue.HasMemory, BoundValue.kind]
  | localMemory size => simp [Store.content?, BoundValue.HasMemory, BoundValue.kind]
  | sampler named => simp [Store.content?, BoundValue.HasMemory, BoundValue.kind]
  | @buffer handle length named | @image handle length descriptor named =>
      obtain ⟨memory, held, _⟩ := shape?_memory.mp named
      obtain ⟨bytes, found, _⟩ := still_there (.memory handle) memory.bytes
        (by simp [Store.bytes?, held])
      have content : (store.memory? handle).map (·.bytes) = some bytes := found
      simp [Store.content?, content, BoundValue.HasMemory, BoundValue.kind]
  | @svm handle offset length named =>
      obtain ⟨region, held, rfl⟩ := shape?_region.mp named
      obtain ⟨bytes, found, length_eq⟩ := still_there (.region handle) region held
      have content : store.region? handle = some bytes := found
      have within := fits.within rfl named
      simp [Store.content?, content, length_eq, within, BoundValue.HasMemory, BoundValue.kind]

theorem argument?_of_mem_views {state : Simulator κ} {kernel : Kernel} {geometry : Geometry}
    {view : LaunchView} (view_mem : view ∈ state.views kernel geometry) :
    view.argument? = kernel.arguments.get? := by
  rw [views] at view_mem
  split at view_mem
  · obtain ⟨_, _, rfl⟩ := List.mem_map.mp view_mem
    rfl
  · cases view_mem

theorem WellBound.memory?_isSome_iff {state : Simulator κ} (formed : state.WellBound)
    {kernel : Kernel} (kernel_mem : kernel ∈ state.kernels) {geometry : Geometry}
    {view : LaunchView} (view_mem : view ∈ state.views kernel geometry) (position : Nat) :
    (view.memory? position).isSome ↔
      ∃ value, kernel.arguments.get? position = some value ∧ value.HasMemory := by
  rw [views] at view_mem
  split at view_mem
  · obtain ⟨store, passed, rfl⟩ := List.mem_map.mp view_mem
    have same := HostProgram.sameShape_of_mem_stores passed
    cases held : kernel.arguments.get? position with
    | none => simp [LaunchView.ofStore, held]
    | some value =>
        have fits := formed.fits kernel kernel_mem position value held
        simp [LaunchView.ofStore, held, fits.content?_isSome_iff same]
  · cases view_mem

/-! ## Handles last -/

/-- Whether a handle goes on naming the same, and is not handed out again for its kind. -/
def Lasts (state : Simulator κ) {kind : HandleKind} (handle : Handle kind) (shape : ObjectShape) :
    Prop :=
  ∀ calls, (state.after calls).shape? handle = some shape ∧
    ∀ call reply next other, perform call (state.after calls) = (.ok reply, next) →
      call.handle? reply = some ⟨kind, other⟩ → other ≠ handle

theorem lasts_of_shape? {state : Simulator κ} {kind : HandleKind} {handle : Handle kind}
    {shape : ObjectShape} (named : state.shape? handle = some shape) :
    state.Lasts handle shape := by
  intro calls
  have still_named := (state.outlasts_after calls).shape? named
  refine ⟨still_named, ?_⟩
  rintro call reply next other run replied rfl
  obtain ⟨_, _, index_eq, _⟩ := creation_ok replied run
  obtain ⟨within, _⟩ := List.getElem?_eq_some_iff.mp still_named
  exact Nat.ne_of_lt within index_eq

/-- A new handle names what was asked for, and goes on to do so. -/
theorem lasts_of_creation {call : Call} {reply : call.Reply} {kind : HandleKind}
    {handle : Handle kind} {state next : Simulator κ}
    (replied : call.handle? reply = some ⟨kind, handle⟩)
    (run : perform call state = (.ok reply, next)) :
    ∃ shape, product? call = some shape ∧ next.Lasts handle shape := by
  obtain ⟨shape, asked, named⟩ := shape?_of_creation replied run
  exact ⟨shape, asked, lasts_of_shape? named⟩

/-- After any calls, everything that is bound to a kernel fits; every launch finds memory behind
exactly those positions to which memory is bound, at each moment; and every handle that is handed
out goes on naming what was asked for, and is not handed out again. -/
theorem bindings_hold_after_calls (setup : Setup κ) (memo : κ) (calls : List Call) :
    ((new setup memo).after calls).WellBound ∧
    (∀ handle kernel geometry,
      ((new setup memo).after calls).checkLaunch handle = .ok kernel →
        ∀ view ∈ ((new setup memo).after calls).views kernel geometry, ∀ position,
          (view.memory? position).isSome ↔
            ∃ value, view.argument? position = some value ∧ value.HasMemory) ∧
    ∀ (call : Call) (reply : call.Reply) (next : Simulator κ) (kind : HandleKind)
      (handle : Handle kind),
      perform call ((new setup memo).after calls) = (.ok reply, next) →
        call.handle? reply = some ⟨kind, handle⟩ →
          ∃ shape, product? call = some shape ∧ next.Lasts handle shape := by
  have formed := wellBound_after setup memo calls
  refine ⟨formed, fun handle kernel geometry accepted view view_mem position => ?_,
    fun call reply next kind handle run replied => lasts_of_creation replied run⟩
  have kernel_mem := List.mem_of_getElem? (checkLaunch_ok.mp accepted).1
  rw [formed.memory?_isSome_iff kernel_mem view_mem, argument?_of_mem_views view_mem]

/-- Calls that bind a buffer and the end of a region, and try to bind a buffer as an image and a
sampler that is not there. -/
def mixedCalls : List Call :=
  [.buildProgram (.source "f") "", .createKernel ⟨0⟩ "f", .createBuffer [1, 2] 4,
    .createRegion [3] 2, .bind ⟨0⟩ 0 (.buffer ⟨0⟩), .bind ⟨0⟩ 1 (.svm ⟨0⟩ 2),
    .bind ⟨0⟩ 2 (.image ⟨0⟩), .bind ⟨0⟩ 3 (.sampler ⟨7⟩), .launch ⟨0⟩ ⟨[8], [0], [0]⟩]

/-- A setup in which every kernel writes a byte through two positions. -/
def stampingSetup : Setup Unit :=
  { Setup.plain with
    hostKernel? := fun _ => some fun _ => .write 0 0 [255] (.write 2 0 [254] (.halt ())) }

theorem bindings_hold_after_mixedCalls :
    let state := (new stampingSetup ()).after mixedCalls
    ∃ kernel next, state.checkLaunch ⟨0⟩ = .ok kernel ∧ kernel.arguments.positions = [0, 1] ∧
      (∀ position value, kernel.arguments.get? position = some value → state.Fits value) ∧
      (state.views kernel ⟨[8], [0], [0]⟩).length = 3 ∧
      (∀ view ∈ state.views kernel ⟨[8], [0], [0]⟩, (view.memory? 1).isSome) ∧
      perform (.createBuffer [] 1) state = (.ok ⟨1⟩, next) ∧
        next.Lasts (⟨1⟩ : Handle .memory) (.memory 1 none) := by
  obtain ⟨formed, launches, handles⟩ := bindings_hold_after_calls stampingSetup () mixedCalls
  obtain ⟨shape, asked, lasts⟩ :=
    handles (.createBuffer [] 1) ⟨1⟩ _ .memory ⟨1⟩ rfl rfl
  cases asked
  have accepted : ((new stampingSetup ()).after mixedCalls).checkLaunch ⟨0⟩ =
      .ok ⟨"f", .ofList [(0, .buffer ⟨0⟩), (1, .svm ⟨0⟩ 2)]⟩ := by decide +kernel
  have kernel_mem := List.mem_of_getElem? (checkLaunch_ok.mp accepted).1
  refine ⟨_, _, accepted, by decide, formed.fits _ kernel_mem, rfl, fun view view_mem => ?_, rfl,
    lasts⟩
  rw [launches ⟨0⟩ _ _ accepted view view_mem, argument?_of_mem_views view_mem]
  exact ⟨.svm ⟨0⟩ 2, by decide, .inr (.inr rfl)⟩

end Simulator

end LaunchReplay
