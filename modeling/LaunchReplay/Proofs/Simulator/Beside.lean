import LaunchReplay.Proofs.Device.InStep
import LaunchReplay.Proofs.Simulator.Objects
import LaunchReplay.Simulator.Script

/-!
# Devices with older objects

On a device that was used before, new objects come after the older ones of their kind. Calls that
speak of new objects only do there what they do on a new device, under handles whose numbers are
moved by the numbers of older objects. A launch does so too if its host kernel does not look at
the numbers of handles.
-/

namespace LaunchReplay

/-- A handle moved behind older objects. -/
def Handle.moved (older : HandleKind → Nat) {kind : HandleKind} (handle : Handle kind) :
    Handle kind :=
  ⟨older kind + handle.index⟩

/-- A value with its handles moved behind older objects. -/
def BoundValue.moved (older : HandleKind → Nat) : BoundValue → BoundValue
  | .scalar bytes => .scalar bytes
  | .buffer memory => .buffer (memory.moved older)
  | .image memory => .image (memory.moved older)
  | .svm region offset => .svm (region.moved older) offset
  | .localMemory size => .localMemory size
  | .sampler handle => .sampler (handle.moved older)

/-- An object to be read back, moved behind older objects. -/
def ReadSource.moved (older : HandleKind → Nat) : ReadSource → ReadSource
  | .buffer memory => .buffer (memory.moved older)
  | .image memory => .image (memory.moved older)
  | .svm region => .svm (region.moved older)

@[simp]
theorem BoundValue.kind_moved (older : HandleKind → Nat) (value : BoundValue) :
    (value.moved older).kind = value.kind := by
  cases value <;> rfl

namespace Simulator

variable {κ : Type}

/-- The numbers of objects of a device. -/
def counts (state : Simulator κ) : HandleKind → Nat
  | .program => state.programs.length
  | .kernel => state.kernels.length
  | .memory => state.store.memories.length
  | .region => state.store.regions.length
  | .sampler => state.samplers.length

/-- A kernel with the handles of its arguments moved behind older objects. -/
def Kernel.moved (older : HandleKind → Nat) (kernel : Kernel) : Kernel :=
  ⟨kernel.name, kernel.arguments.map (BoundValue.moved older)⟩

/-! ## Memory behind older memory -/

/-- Memory with older memory before it. -/
def Store.beside (older store : Store) : Store :=
  ⟨older.memories ++ store.memories, older.regions ++ store.regions⟩

theorem getElem?_append_add {α : Type} (front back : List α) (index : Nat) :
    (front ++ back)[front.length + index]? = back[index]? := by
  rw [List.getElem?_append_right (Nat.le_add_right _ _), Nat.add_sub_cancel_left]

theorem modify_append_add {α : Type} (front back : List α) (index : Nat) (change : α → α) :
    (front ++ back).modify (front.length + index) change = front ++ back.modify index change := by
  induction front with
  | nil => simp
  | cons item rest induction => simp [Nat.succ_add, induction]

section

variable (old : Simulator κ) (store : Store)

@[simp]
theorem memory?_beside (handle : Handle .memory) :
    (old.store.beside store).memory? (handle.moved old.counts) = store.memory? handle :=
  getElem?_append_add old.store.memories store.memories handle.index

@[simp]
theorem region?_beside (handle : Handle .region) :
    (old.store.beside store).region? (handle.moved old.counts) = store.region? handle :=
  getElem?_append_add old.store.regions store.regions handle.index

theorem content?_beside (value : BoundValue) :
    (old.store.beside store).content? (value.moved old.counts) = store.content? value := by
  cases value <;> simp [BoundValue.moved, Store.content?]

theorem write_beside (value : BoundValue) (start : Nat) (patch : Bytes) :
    (old.store.beside store).write (value.moved old.counts) start patch =
      old.store.beside (store.write value start patch) := by
  cases value <;>
    simp [BoundValue.moved, Store.write, Store.beside, Handle.moved, counts, modify_append_add]

theorem bytes?_beside (source : ReadSource) :
    (old.store.beside store).bytes? (source.moved old.counts).object =
      store.bytes? source.object := by
  cases source <;> simp [ReadSource.moved, ReadSource.object, Store.bytes?]

end

/-! ## Host kernels that do not look at handles -/

/-- Whether two moments of launches look alike but for the numbers of handles: the same index
space and, at each position, the same plain value, kind of value and memory. -/
structure LaunchView.Alike (left right : LaunchView) : Prop where
  geometry : left.geometry = right.geometry
  scalar : ∀ position, left.scalar? position = right.scalar? position
  kind : ∀ position,
    (left.argument? position).map BoundValue.kind = (right.argument? position).map BoundValue.kind
  memory : ∀ position, left.memory? position = right.memory? position

/-- Whether two launches write the same as long as what they see is alike, whatever memos they
leave. -/
inductive HostProgram.Alike : HostProgram κ → HostProgram κ → Prop
  | halt (memo other : κ) : Alike (.halt memo) (.halt other)
  | write {left right : HostProgram κ} (position start : Nat) (patch : Bytes)
      (next : Alike left right) :
      Alike (.write position start patch left) (.write position start patch right)
  | observe {left right : LaunchView → HostProgram κ}
      (next : ∀ view other : LaunchView, view.Alike other → Alike (left view) (right other)) :
      Alike (.observe left) (.observe right)

/-- Whether what a host kernel writes depends only on the index space and on the plain values, kinds
of values and memory that it sees. -/
def Oblivious (host : HostKernel κ) : Prop :=
  ∀ memo other, (host memo).Alike (host other)

/-- No script makes what it writes depend on what it has noted. -/
theorem oblivious_scripted (script : List ScriptStep) : Oblivious (scripted script) := by
  induction script with
  | nil => exact .halt
  | cons step rest induction =>
      intro probes others
      cases step with
      | set position index byte => exact .write _ _ _ (induction probes others)
      | add position amount =>
          refine .observe fun view other alike => ?_
          rw [alike.memory position]
          exact .write _ _ _ (induction probes others)
      | copy origin target =>
          refine .observe fun view other alike => ?_
          rw [alike.scalar origin]
          exact .write _ _ _ (induction probes others)
      | geometry position =>
          refine .observe fun view other alike => ?_
          rw [alike.geometry]
          exact .write _ _ _ (induction probes others)
      | probe position => exact .observe fun view other _ => induction _ _

section

variable (old : Simulator κ) {geometry : Geometry} {arguments : PositionMap BoundValue}

theorem alike_beside (store : Store) :
    (LaunchView.ofStore geometry arguments store).Alike
      (.ofStore geometry (arguments.map (BoundValue.moved old.counts))
        (old.store.beside store)) where
  geometry := rfl
  scalar position := by
    simp only [LaunchView.scalar?, LaunchView.ofStore, PositionMap.get?_map]
    rcases arguments.get? position with _ | value
    · rfl
    · cases value <;> rfl
  kind position := by
    simp [LaunchView.ofStore, Function.comp_def]
  memory position := by
    simp only [LaunchView.ofStore, PositionMap.get?_map, Option.bind_map]
    exact Option.bind_congr fun value _ => (content?_beside old store value).symm

/-- Launches that write the same write the same behind older memory, which they leave alone. -/
theorem run_beside {program other : HostProgram κ} (alike : program.Alike other) (store : Store) :
    (other.run geometry (arguments.map (BoundValue.moved old.counts)) (old.store.beside store)).2 =
      old.store.beside (program.run geometry arguments store).2 := by
  induction alike generalizing store with
  | halt memo other => rfl
  | write position start patch _ induction =>
      rw [HostProgram.run, HostProgram.run, PositionMap.get?_map]
      rcases arguments.get? position with _ | value
      · exact induction store
      · change (HostProgram.run _ _ _ (Store.write _ (value.moved old.counts) start patch)).2 = _
        rw [write_beside]
        exact induction _
  | observe _ induction =>
      rw [HostProgram.run, HostProgram.run]
      exact induction _ _ (alike_beside old store) store

/-- Whether a host kernel does the same to memory behind the older memory of a device, which it
leaves alone, as it does without it, whatever memos it finds. -/
def ActsBeside (host : HostKernel κ) : Prop :=
  ∀ geometry arguments store memo other,
    ((host other).run geometry (arguments.map (BoundValue.moved old.counts))
        (old.store.beside store)).2 =
      old.store.beside ((host memo).run geometry arguments store).2

theorem Oblivious.actsBeside {host : HostKernel κ} (oblivious : Oblivious host) :
    ActsBeside old host :=
  fun _ _ store memo other => run_beside old (oblivious memo other) store

/-- Whether what a host kernel writes does not depend on its memo. -/
def Stateless (host : HostKernel κ) : Prop :=
  ∀ geometry arguments store memo other,
    ((host other).run geometry arguments store).2 = ((host memo).run geometry arguments store).2

theorem map_moved_of_new (setup : Setup κ) (memo : κ) (arguments : PositionMap BoundValue) :
    arguments.map (BoundValue.moved (new setup memo).counts) = arguments := by
  have unmoved : BoundValue.moved (new setup memo).counts = id := by
    funext value
    cases value <;> simp [BoundValue.moved, Handle.moved, counts, new, Store.empty]
  simp [unmoved, PositionMap.map]

/-- A host kernel that does not look at handles does not look at its memo either. -/
theorem Oblivious.stateless {host : HostKernel κ} (oblivious : Oblivious host) :
    Stateless host := by
  intro geometry arguments store memo other
  have same := oblivious.actsBeside (new ⟨fun _ => none, fun _ => none, true⟩ memo) geometry
    arguments store memo other
  rwa [map_moved_of_new] at same

/-- Where there is no older memory, a host kernel may look at the numbers of handles. -/
theorem Stateless.actsBeside_new {host : HostKernel κ} (stateless : Stateless host)
    (setup : Setup κ) (memo : κ) : ActsBeside (new setup memo) host := by
  intro geometry arguments store before after
  rw [map_moved_of_new]
  exact stateless geometry arguments store before after

end

/-! ## Calls that speak of new objects -/

/-- Whether a device holds older objects and after them those of another device, whatever it
recorded and whatever memo it keeps. -/
structure Beside (old alone both : Simulator κ) : Prop where
  setup : both.setup = alone.setup
  programs : both.programs = old.programs ++ alone.programs
  kernels : both.kernels = old.kernels ++ alone.kernels.map (Kernel.moved old.counts)
  store : both.store = old.store.beside alone.store
  samplers : both.samplers = old.samplers ++ alone.samplers

/-- A device is its own objects and no new ones. -/
theorem beside_new {old : Simulator κ} {setup : Setup κ} (same : old.setup = setup) (memo : κ) :
    Beside old (new setup memo) old :=
  ⟨same, by simp [new], by simp [new], by simp [new, Store.beside, Store.empty], by simp [new]⟩

section

variable {old alone both : Simulator κ}

theorem buildProgram_beside (alike : Beside old alone both) (image : ProgramImage)
    (options : String) :
    InStep (Beside old) (Handle.moved old.counts) (alone.buildProgram image options)
      (both.buildProgram image options) := by
  rw [buildProgram, buildProgram]
  cases compile image with
  | error log => exact ⟨{ alike with }, rfl⟩
  | ok bytes =>
      refine ⟨{ alike with programs := by simp [alike.programs] }, ?_⟩
      simp [alike.programs, Handle.moved, counts, Except.map]

theorem createKernel_beside (alike : Beside old alone both) {program : Handle .program}
    {shape : ObjectShape} (named : alone.shape? program = some shape) (name : String) :
    InStep (Beside old) (Handle.moved old.counts) (alone.createKernel program name)
      (both.createKernel (program.moved old.counts) name) := by
  obtain ⟨built, held, _⟩ := shape?_program.mp named
  have held_beside : both.programs[(program.moved old.counts).index]? = some built := by
    rw [alike.programs]
    exact (getElem?_append_add _ _ _).trans held
  rw [createKernel, createKernel, held, held_beside]
  dsimp only
  split
  · refine ⟨{ alike with kernels := ?_ }, ?_⟩
    · simp [alike.kernels, Kernel.moved, PositionMap.map, PositionMap.empty]
    · simp [alike.kernels, Handle.moved, counts, Except.map]
  · exact ⟨alike, rfl⟩

theorem addMemory_beside (alike : Beside old alone both) (memory : Memory) :
    InStep (Beside old) (Handle.moved old.counts) (alone.addMemory memory)
      (both.addMemory memory) := by
  refine ⟨{ alike with store := ?_ }, ?_⟩
  · simp [addMemory, alike.store, Store.beside]
  · simp [addMemory, alike.store, Store.beside, Handle.moved, counts, Except.map]

theorem createRegion_beside (alike : Beside old alone both) (contents : Bytes) (length : Nat) :
    InStep (Beside old) (Handle.moved old.counts) (alone.createRegion contents length)
      (both.createRegion contents length) := by
  have supports : both.setup.supportsRegions = alone.setup.supportsRegions := by rw [alike.setup]
  rw [createRegion, createRegion, supports]
  split
  · refine ⟨{ alike with store := ?_ }, ?_⟩
    · simp [alike.store, Store.beside]
    · simp [alike.store, Store.beside, Handle.moved, counts, Except.map]
  · exact ⟨alike, rfl⟩

theorem createSampler_beside (alike : Beside old alone both) (descriptor : SamplerDescriptor) :
    InStep (Beside old) (Handle.moved old.counts) (alone.createSampler descriptor)
      (both.createSampler descriptor) := by
  refine ⟨{ alike with samplers := ?_ }, ?_⟩
  · simp [createSampler, alike.samplers]
  · simp [createSampler, alike.samplers, Handle.moved, counts, Except.map]

theorem kernel?_beside (alike : Beside old alone both) (handle : Handle .kernel) :
    both.kernels[(handle.moved old.counts).index]? =
      (alone.kernels[handle.index]?).map (Kernel.moved old.counts) := by
  rw [alike.kernels, ← List.getElem?_map]
  exact getElem?_append_add _ _ _

theorem arity?_beside (alike : Beside old alone both) (handle : Handle .kernel) :
    both.arity? (handle.moved old.counts) = alone.arity? handle := by
  simp only [Simulator.arity?, kernel?_beside alike, alike.setup, Option.bind_map]
  rfl

/-- A value that names new objects is checked as it is without the older ones. -/
theorem checkValue_beside (alike : Beside old alone both) {value : BoundValue}
    (names : alone.Names value) (position : Nat) :
    both.checkValue position (value.moved old.counts) = alone.checkValue position value := by
  cases names with
  | scalar bytes => rfl
  | localMemory size => rfl
  | buffer named =>
      obtain ⟨memory, held, _, plain⟩ := shape?_memory.mp named
      simp [BoundValue.moved, checkValue, alike.store, held, plain]
  | image named =>
      obtain ⟨memory, held, _, described⟩ := shape?_memory.mp named
      simp [BoundValue.moved, checkValue, alike.store, held, described]
  | svm named =>
      obtain ⟨bytes, held, _⟩ := shape?_region.mp named
      simp [BoundValue.moved, checkValue, alike.store, held]
  | @sampler handle descriptor named =>
      obtain ⟨below, _⟩ := List.getElem?_eq_some_iff.mp (shape?_sampler.mp named)
      have below_beside : (handle.moved old.counts).index < both.samplers.length := by
        simpa [alike.samplers, Handle.moved, counts] using below
      simp [BoundValue.moved, checkValue, below, below_beside]

theorem checkPosition_beside (alike : Beside old alone both) (handle : Handle .kernel)
    (position : Nat) :
    both.checkPosition (handle.moved old.counts) position =
      alone.checkPosition handle position := by
  rw [checkPosition, checkPosition, arity?_beside alike]

theorem checkBind_beside (alike : Beside old alone both) {handle : Handle .kernel}
    {object : Kernel} (held : alone.kernels[handle.index]? = some object) {value : BoundValue}
    (names : alone.Names value) (position : Nat) :
    both.checkBind (handle.moved old.counts) position (value.moved old.counts) =
      (alone.checkBind handle position value).map (Kernel.moved old.counts) := by
  have found : both.kernel (handle.moved old.counts) = .ok (object.moved old.counts) :=
    kernel_ok.mpr (by rw [kernel?_beside alike, held]; rfl)
  rw [checkBind, checkBind, checkValue_beside alike names, checkPosition_beside alike, found,
    kernel_ok.mpr held]
  cases alone.checkValue position value with
  | error error => rfl
  | ok _ => cases alone.checkPosition handle position <;> rfl

theorem bind_beside (alike : Beside old alone both) {handle : Handle .kernel}
    {shape : ObjectShape} (named : alone.shape? handle = some shape) {value : BoundValue}
    (names : alone.Names value) (position : Nat) :
    InStep (Beside old) id (alone.bind handle position value)
      (both.bind (handle.moved old.counts) position (value.moved old.counts)) := by
  obtain ⟨object, held, _⟩ := shape?_kernel.mp named
  rw [Simulator.bind, Simulator.bind, checkBind_beside alike held names]
  cases alone.checkBind handle position value with
  | error error => exact ⟨alike, rfl⟩
  | ok found =>
      refine ⟨{ alike with kernels := ?_ }, rfl⟩
      have after_older : old.kernels.length ≤ (handle.moved old.counts).index :=
        Nat.le_add_right _ _
      have index_eq : (handle.moved old.counts).index - old.kernels.length = handle.index :=
        Nat.add_sub_cancel_left _ _
      simp only [Except.map, alike.kernels, List.set_append_right _ _ after_older, index_eq,
        List.map_set, Kernel.moved, PositionMap.map_insert]

/-! ## Launches -/

theorem checkLaunch_beside (alike : Beside old alone both) {handle : Handle .kernel}
    {object : Kernel} (held : alone.kernels[handle.index]? = some object) :
    both.checkLaunch (handle.moved old.counts) =
      (alone.checkLaunch handle).map (Kernel.moved old.counts) := by
  have found : both.kernel (handle.moved old.counts) = .ok (object.moved old.counts) :=
    kernel_ok.mpr (by rw [kernel?_beside alike, held]; rfl)
  have gap_eq : (object.moved old.counts).arguments.firstGap = object.arguments.firstGap := by
    simp [Kernel.moved, PositionMap.firstGap]
  have declared_alike : both.setup.arity? (object.moved old.counts).name =
      alone.setup.arity? object.name := by rw [alike.setup]; rfl
  simp only [checkLaunch, found, kernel_ok.mpr held, Bind.bind, Except.bind, declared_alike,
    gap_eq]
  cases alone.setup.arity? object.name with
  | none => rfl
  | some arity => by_cases gap : object.arguments.firstGap < arity <;> simp [gap, Except.map]

theorem runHost_beside (alike : Beside old alone both)
    (steady : ∀ name host, alone.setup.hostKernel? name = some host → ActsBeside old host)
    (object : Kernel) (geometry : Geometry) :
    (both.runHost (object.moved old.counts) geometry).2 =
      old.store.beside (alone.runHost object geometry).2 := by
  have registered_alike : both.setup.hostKernel? (object.moved old.counts).name =
      alone.setup.hostKernel? object.name := by rw [alike.setup]; rfl
  rw [runHost, runHost, registered_alike]
  cases registered : alone.setup.hostKernel? object.name with
  | none => exact alike.store
  | some host =>
      rw [alike.store]
      exact steady _ host registered geometry object.arguments alone.store alone.memo both.memo

/-- A launch whose host kernel acts beside the older objects as it does without them goes on as if
there were none. -/
theorem launch_beside (alike : Beside old alone both)
    (steady : ∀ name host, alone.setup.hostKernel? name = some host → ActsBeside old host)
    {handle : Handle .kernel} {shape : ObjectShape} (named : alone.shape? handle = some shape)
    (geometry : Geometry) :
    InStep (Beside old) id (alone.launch handle geometry)
      (both.launch (handle.moved old.counts) geometry) := by
  obtain ⟨object, held, _⟩ := shape?_kernel.mp named
  rw [Simulator.launch, Simulator.launch, checkLaunch_beside alike held]
  cases alone.checkLaunch handle with
  | error error => exact ⟨alike, rfl⟩
  | ok found =>
      exact ⟨{ alike with store := runHost_beside alike steady found geometry }, rfl⟩

end

end Simulator

end LaunchReplay
