import LaunchReplay.Proofs.Replay.Acquisition
import LaunchReplay.Proofs.Replay.Binding

/-!
# Objects of a simulated device

A handle is the number of an object among those of its kind. Objects are only ever added after all
others of their kind, and no call changes what an object is, whatever it does to the content of
memory. So a handle goes on naming what it named when it was new.
-/

namespace LaunchReplay

/-- What an object is for as long as its device is there. -/
inductive ObjectShape
  /-- A program with its built form. -/
  | program (built : Bytes)
  /-- A kernel of an entry point. -/
  | kernel (name : String)
  /-- A buffer of a length, or an image if it has a descriptor. -/
  | memory (length : Nat) (descriptor : Option ImageDescriptor)
  /-- A shared region of a length. -/
  | region (length : Nat)
  /-- A sampler. -/
  | sampler (descriptor : SamplerDescriptor)
deriving DecidableEq, Repr

/-- The handle in the reply to a call, if the call makes an object. -/
def Call.handle? : (call : Call) → call.Reply → Option (Sigma Handle)
  | .buildProgram _ _, handle => some ⟨.program, handle⟩
  | .createKernel _ _, handle => some ⟨.kernel, handle⟩
  | .createBuffer _ _, handle => some ⟨.memory, handle⟩
  | .createImage _ _, handle => some ⟨.memory, handle⟩
  | .createRegion _ _, handle => some ⟨.region, handle⟩
  | .createSampler _, handle => some ⟨.sampler, handle⟩
  | .bind _ _ _, _ => none
  | .launch _ _, _ => none
  | .readBack _, _ => none

namespace Simulator

variable {κ : Type}

/-- What a call asks a simulated device to make. -/
def product? : Call → Option ObjectShape
  | .buildProgram image _ => (compile image).toOption.map .program
  | .createKernel _ name => some (.kernel name)
  | .createBuffer contents length => some (.memory (max length contents.length) none)
  | .createImage descriptor contents => some (.memory contents.length (some descriptor))
  | .createRegion contents length => some (.region (max length contents.length))
  | .createSampler descriptor => some (.sampler descriptor)
  | _ => none

/-- What the objects of a kind are, in the order of their handles. -/
def shapes (state : Simulator κ) : HandleKind → List ObjectShape
  | .program => state.programs.map .program
  | .kernel => state.kernels.map fun object => .kernel object.name
  | .memory => state.store.memories.map fun object => .memory object.bytes.length object.descriptor
  | .region => state.store.regions.map fun bytes => .region bytes.length
  | .sampler => state.samplers.map .sampler

/-- What a handle names. -/
def shape? (state : Simulator κ) {kind : HandleKind} (handle : Handle kind) : Option ObjectShape :=
  (state.shapes kind)[handle.index]?

/-- Whether all objects of a device are still there, and still what they were. -/
def Outlasts (before after : Simulator κ) : Prop :=
  ∀ kind, before.shapes kind <+: after.shapes kind

theorem Outlasts.refl (state : Simulator κ) : Outlasts state state :=
  fun _ => List.prefix_refl _

theorem Outlasts.trans {first second third : Simulator κ} (early : Outlasts first second)
    (late : Outlasts second third) : Outlasts first third :=
  fun kind => (early kind).trans (late kind)

theorem Outlasts.shape? {before after : Simulator κ} (outlasts : Outlasts before after)
    {kind : HandleKind} {handle : Handle kind} {shape : ObjectShape}
    (named : before.shape? handle = some shape) : after.shape? handle = some shape := by
  obtain ⟨within, _⟩ := List.getElem?_eq_some_iff.mp named
  obtain ⟨added, grown⟩ := outlasts kind
  rw [Simulator.shape?, ← grown, List.getElem?_append_left within]
  exact named

/-! ## What one call does -/

/-- What a device is after an object was added to it; nothing is bound to a new kernel. -/
structure Created (before after : Simulator κ) (kind : HandleKind) (shape : ObjectShape) :
    Prop where
  /-- The setup stays. -/
  setup : after.setup = before.setup
  /-- Kernels keep what is bound to them. -/
  kernels : after.kernels = before.kernels ∨
    ∃ name, after.kernels = before.kernels ++ [⟨name, .empty⟩]
  /-- The object is the last of its kind. -/
  shapes : ∀ other, after.shapes other =
    before.shapes other ++ if other = kind then [shape] else []

/-- A creation that succeeds adds what was asked for, under the next handle of its kind. -/
theorem creation_ok {call : Call} {reply : call.Reply} {kind : HandleKind} {handle : Handle kind}
    {state after : Simulator κ} (replied : call.handle? reply = some ⟨kind, handle⟩)
    (run : perform call state = (.ok reply, after)) :
    ∃ shape, product? call = some shape ∧ handle.index = (state.shapes kind).length ∧
      Created state after kind shape := by
  cases call with
  | buildProgram image options =>
      cases replied
      rw [perform, buildProgram] at run
      split at run
      · cases run
      · rename_i built compiled
        cases run
        refine ⟨.program built, by simp [product?, compiled, Except.toOption],
          by simp [shapes], rfl, .inl rfl, fun other => ?_⟩
        cases other <;> simp [shapes]
  | createKernel program name =>
      cases replied
      obtain ⟨rfl, rfl⟩ := createKernel_ok run
      refine ⟨_, rfl, by simp [shapes], rfl, .inr ⟨name, rfl⟩, fun other => ?_⟩
      cases other <;> simp [shapes]
  | createRegion contents length =>
      cases replied
      rw [perform, createRegion] at run
      split at run
      · cases run
        refine ⟨_, rfl, by simp [shapes], rfl, .inl rfl, fun other => ?_⟩
        cases other <;> simp [shapes]
      · cases run
  | createBuffer _ _ | createImage _ _ | createSampler _ =>
      cases replied
      cases run
      refine ⟨_, rfl, by simp [shapes], rfl, .inl rfl, fun other => ?_⟩
      cases other <;> simp [shapes]
  | bind _ _ _ | launch _ _ | readBack _ => cases replied

/-- A handle that was just handed out names what was asked for. -/
theorem shape?_of_creation {call : Call} {reply : call.Reply} {kind : HandleKind}
    {handle : Handle kind} {state after : Simulator κ}
    (replied : call.handle? reply = some ⟨kind, handle⟩)
    (run : perform call state = (.ok reply, after)) :
    ∃ shape, product? call = some shape ∧ after.shape? handle = some shape := by
  obtain ⟨shape, asked, index_eq, created⟩ := creation_ok replied run
  refine ⟨shape, asked, ?_⟩
  rw [shape?, created.shapes, index_eq]
  simp

/-- What a call that fails leaves of a device: all of it, with one more record if it was a build. -/
def refused (state : Simulator κ) : Call → Simulator κ
  | .buildProgram image options =>
    { state with builds := state.builds ++ [⟨image.tier, options, false⟩] }
  | _ => state

theorem perform_error {call : Call} {error : DeviceError} {state after : Simulator κ}
    (run : perform call state = (.error error, after)) : after = state.refused call := by
  cases call with
  | buildProgram image options =>
      rw [perform, buildProgram] at run
      split at run <;> cases run
      rfl
  | createKernel program name => exact createKernel_error run
  | createRegion contents length =>
      rw [perform, createRegion] at run
      split at run <;> cases run
      rfl
  | createBuffer _ _ | createImage _ _ | createSampler _ => cases run
  | bind handle position value =>
      rw [perform, Simulator.bind] at run
      split at run <;> cases run
      rfl
  | launch handle geometry =>
      rcases state.launch_cases handle geometry with ⟨other, refused⟩ | ⟨_, _, accepted⟩
      · cases refused.symm.trans run
        rfl
      · cases accepted.symm.trans run
  | readBack requests =>
      rw [perform, readBack] at run
      split at run <;> cases run
      rfl

theorem Steady.shapes {before after : Simulator κ} (steady : Steady before after)
    (kind : HandleKind) : after.shapes kind = before.shapes kind := by
  cases kind with
  | program => simp only [Simulator.shapes, steady.programs]
  | kernel => simp only [Simulator.shapes, steady.kernels]
  | sampler => simp only [Simulator.shapes, steady.samplers]
  | memory =>
      have described := congrArg (List.map fun shape => ObjectShape.memory shape.1 shape.2)
        steady.shape.memories
      simpa [Simulator.shapes, Function.comp_def] using described
  | region =>
      have lengths := congrArg (List.map ObjectShape.region) steady.shape.regions
      simpa [Simulator.shapes, Function.comp_def] using lengths

theorem Steady.outlasts {before after : Simulator κ} (steady : Steady before after) :
    Outlasts before after :=
  fun kind => steady.shapes kind ▸ List.prefix_refl _

/-- What a call can do to the objects of a device and to the values bound to its kernels. -/
inductive Change (before : Simulator κ) : Simulator κ → Prop
  /-- All stay as they are. -/
  | kept {after : Simulator κ} (setup : after.setup = before.setup)
      (kernels : after.kernels = before.kernels)
      (shapes : ∀ kind, after.shapes kind = before.shapes kind) : Change before after
  /-- An object is added. -/
  | created {after : Simulator κ} {kind : HandleKind} {shape : ObjectShape}
      (created : Created before after kind shape) : Change before after
  /-- A value is bound that passed all checks. -/
  | bound {handle : Handle .kernel} {position : Nat} {value : BoundValue} {object : Kernel}
      (accepted : before.checkBind handle position value = .ok object) :
      Change before (before.withArguments handle [(position, value)])

theorem perform_change (call : Call) (state : Simulator κ) :
    Change state (perform call state).2 := by
  generalize run : perform call state = performed
  obtain ⟨outcome | reply, after⟩ := performed
  · obtain rfl := perform_error run
    cases call <;> exact .kept rfl rfl fun kind => by cases kind <;> rfl
  cases replied : call.handle? reply with
  | some made =>
      obtain ⟨_, _, _, created⟩ := creation_ok replied run
      exact .created created
  | none =>
      cases call with
      | bind handle position value =>
          cases checked : state.checkBind handle position value with
          | error error => simp [perform, Simulator.bind, checked] at run
          | ok object =>
              rw [bind_ok run]
              exact .bound checked
      | launch handle geometry =>
          have launched : state.launch handle geometry = (.ok reply, after) := run
          have steady := launched ▸ state.launch_steady handle geometry
          exact .kept steady.setup steady.kernels steady.shapes
      | readBack requests =>
          rw [perform, readBack] at run
          split at run <;> cases run
          exact .kept rfl rfl fun _ => rfl
      | _ => cases replied

theorem Change.setup {before after : Simulator κ} (change : Change before after) :
    after.setup = before.setup := by
  cases change with
  | kept setup _ _ => exact setup
  | created created => exact created.setup
  | bound _ => rfl

/-- Binding changes no object but for what is bound to it. -/
theorem outlasts_withArguments (state : Simulator κ) (handle : Handle .kernel)
    (values : List (Nat × BoundValue)) : Outlasts state (state.withArguments handle values) := by
  intro kind
  have same : (state.withArguments handle values).shapes kind = state.shapes kind := by
    cases kind with
    | kernel =>
        have kept : ∀ object : Kernel, ObjectShape.kernel ({ object with
            arguments := values.foldl (fun bound value => bound.insert value.1 value.2)
              object.arguments } : Kernel).name = .kernel object.name := fun _ => rfl
        exact Store.map_modify_of_comp_eq kept state.kernels handle.index
    | _ => rfl
  exact same ▸ List.prefix_refl _

theorem outlasts_withObjects (state : Simulator κ) (table : ArgumentTable)
    (objects : List Allocation) : Outlasts state (state.withObjects table objects) := by
  intro kind
  cases kind <;> simp [shapes, withObjects]

theorem Change.outlasts {before after : Simulator κ} (change : Change before after) :
    Outlasts before after := by
  intro kind
  cases change with
  | kept _ _ shapes => exact shapes kind ▸ List.prefix_refl _
  | created created => exact created.shapes kind ▸ List.prefix_append _ _
  | bound _ => exact outlasts_withArguments before _ _ kind

/-! ## Values that name objects -/

section

variable {state : Simulator κ}

theorem shape?_program {handle : Handle .program} {shape : ObjectShape} :
    state.shape? handle = some shape ↔
      ∃ built, state.programs[handle.index]? = some built ∧ .program built = shape := by
  simp [shape?, shapes]

theorem shape?_kernel {handle : Handle .kernel} {shape : ObjectShape} :
    state.shape? handle = some shape ↔
      ∃ object, state.kernels[handle.index]? = some object ∧ .kernel object.name = shape := by
  simp [shape?, shapes]

theorem shape?_memory {handle : Handle .memory} {length : Nat}
    {descriptor : Option ImageDescriptor} :
    state.shape? handle = some (.memory length descriptor) ↔
      ∃ memory, state.store.memory? handle = some memory ∧ memory.bytes.length = length ∧
        memory.descriptor = descriptor := by
  simp [shape?, shapes, Store.memory?]

theorem shape?_region {handle : Handle .region} {length : Nat} :
    state.shape? handle = some (.region length) ↔
      ∃ bytes, state.store.region? handle = some bytes ∧ bytes.length = length := by
  simp [shape?, shapes, Store.region?]

theorem shape?_sampler {handle : Handle .sampler} {descriptor : SamplerDescriptor} :
    state.shape? handle = some (.sampler descriptor) ↔
      state.samplers[handle.index]? = some descriptor := by
  simp [shape?, shapes]

end

/-- Whether a value names objects of a device that are of its own kind. -/
inductive Names (state : Simulator κ) : BoundValue → Prop
  /-- Bytes name nothing. -/
  | scalar (bytes : Bytes) : Names state (.scalar bytes)
  /-- A size names nothing. -/
  | localMemory (size : Nat) : Names state (.localMemory size)
  /-- A buffer is memory that is no image. -/
  | buffer {handle : Handle .memory} {length : Nat}
      (named : state.shape? handle = some (.memory length none)) : Names state (.buffer handle)
  /-- An image is memory with a descriptor. -/
  | image {handle : Handle .memory} {length : Nat} {descriptor : ImageDescriptor}
      (named : state.shape? handle = some (.memory length (some descriptor))) :
      Names state (.image handle)
  /-- A shared region, whatever the offset into it. -/
  | svm {handle : Handle .region} {offset length : Nat}
      (named : state.shape? handle = some (.region length)) : Names state (.svm handle offset)
  /-- A sampler. -/
  | sampler {handle : Handle .sampler} {descriptor : SamplerDescriptor}
      (named : state.shape? handle = some (.sampler descriptor)) : Names state (.sampler handle)

/-- Whether a value names objects of a device and fits them. -/
structure Fits (state : Simulator κ) (value : BoundValue) : Prop where
  /-- The objects are there. -/
  names : state.Names value
  /-- An offset is at most the length of its region. -/
  within : ∀ {handle : Handle .region} {offset length : Nat}, value = .svm handle offset →
    state.shape? handle = some (.region length) → offset ≤ length

theorem Names.outlast {before after : Simulator κ} {value : BoundValue}
    (names : before.Names value) (outlasts : Outlasts before after) : after.Names value := by
  cases names with
  | scalar bytes => exact .scalar bytes
  | localMemory size => exact .localMemory size
  | buffer named => exact .buffer (outlasts.shape? named)
  | image named => exact .image (outlasts.shape? named)
  | svm named => exact .svm (outlasts.shape? named)
  | sampler named => exact .sampler (outlasts.shape? named)

theorem Fits.outlast {before after : Simulator κ} {value : BoundValue}
    (fits : before.Fits value) (outlasts : Outlasts before after) : after.Fits value := by
  refine ⟨fits.names.outlast outlasts, ?_⟩
  rintro handle offset length rfl later
  cases fits.names with
  | svm named =>
      obtain rfl := ObjectShape.region.inj
        (Option.some.inj ((outlasts.shape? named).symm.trans later))
      exact fits.within rfl named

/-- A device accepts only values that fit its objects. -/
theorem fits_of_checkValue {state : Simulator κ} {position : Nat} {value : BoundValue}
    (accepted : state.checkValue position value = .ok ()) : state.Fits value := by
  cases value with
  | scalar bytes => exact ⟨.scalar bytes, nofun⟩
  | localMemory size => exact ⟨.localMemory size, nofun⟩
  | buffer handle =>
      rw [checkValue] at accepted
      split at accepted
      · cases accepted
      · rename_i memory held
        split at accepted
        · cases accepted
        · rename_i plain
          exact ⟨.buffer (shape?_memory.mpr ⟨memory, held, rfl, by simpa using plain⟩), nofun⟩
  | image handle =>
      rw [checkValue] at accepted
      split at accepted
      · cases accepted
      · rename_i memory held
        split at accepted
        · rename_i described
          obtain ⟨descriptor, described⟩ := Option.isSome_iff_exists.mp described
          exact ⟨.image (shape?_memory.mpr ⟨memory, held, rfl, described⟩), nofun⟩
        · cases accepted
  | svm handle offset =>
      rw [checkValue] at accepted
      split at accepted
      · cases accepted
      · rename_i bytes held
        split at accepted
        · rename_i within
          refine ⟨.svm (shape?_region.mpr ⟨bytes, held, rfl⟩), ?_⟩
          rintro _ _ length ⟨⟩ named
          obtain ⟨other, other_held, rfl⟩ := shape?_region.mp named
          obtain rfl := Option.some.inj (held.symm.trans other_held)
          exact within
        · cases accepted
  | sampler handle =>
      rw [checkValue] at accepted
      split at accepted
      · rename_i below
        exact ⟨.sampler (shape?_sampler.mpr (List.getElem?_eq_getElem below)), nofun⟩
      · cases accepted

end Simulator

end LaunchReplay
