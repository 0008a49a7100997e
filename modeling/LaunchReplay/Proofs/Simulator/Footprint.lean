import LaunchReplay.Proofs.Simulator.WellBound

/-!
# What a launch touches

A host kernel writes through the values that are bound to its kernel, and into a region only from
the offset on at which it is bound. So a launch leaves alone whatever is not bound, the start of
every region up to the smallest of its offsets, and all of the device that is not memory.
-/

namespace LaunchReplay

theorem Bytes.take_overwrite {limit start : Nat} (before : limit ≤ start) (content patch : Bytes) :
    (content.overwrite start patch).take limit = content.take limit := by
  rw [overwrite, List.append_assoc]
  by_cases within : limit ≤ content.length
  · have reaches : limit ≤ (content.take start).length := by
      rw [List.length_take]
      omega
    rw [List.take_append_of_le_length reaches, List.take_take, Nat.min_eq_left before]
  · -- The patch would begin after the end of the content, so none of it is written.
    have beyond : content.length ≤ start := by omega
    have nothing_after : content.length ≤ start + patch.length := by omega
    rw [List.take_of_length_le beyond, Nat.sub_eq_zero_of_le beyond, List.take_zero,
      List.drop_eq_nil_of_le nothing_after, List.append_nil, List.append_nil]

namespace Simulator

/-! ## Memory that is not bound -/

namespace Store

/-- What is the same in two stores if only values bound to a kernel were written through. -/
structure AlikeOutside (arguments : PositionMap BoundValue) (before after : Store) : Prop where
  /-- Buffers and images that are not bound. -/
  memories : ∀ handle : Handle .memory,
    (∀ position, arguments.get? position ≠ some (.buffer handle) ∧
      arguments.get? position ≠ some (.image handle)) →
    after.memory? handle = before.memory? handle
  /-- Regions that are not bound. -/
  regions : ∀ handle : Handle .region,
    (∀ position offset, arguments.get? position ≠ some (.svm handle offset)) →
    after.region? handle = before.region? handle
  /-- All bytes of a region before the smallest offset at which it is bound. -/
  starts : ∀ (handle : Handle .region) (limit : Nat),
    (∀ position offset, arguments.get? position = some (.svm handle offset) → limit ≤ offset) →
    (after.region? handle).map (List.take limit) = (before.region? handle).map (List.take limit)

variable {arguments : PositionMap BoundValue}

theorem AlikeOutside.refl (store : Store) : AlikeOutside arguments store store :=
  ⟨fun _ _ => rfl, fun _ _ => rfl, fun _ _ _ => rfl⟩

theorem AlikeOutside.trans {first second third : Store}
    (early : AlikeOutside arguments first second) (late : AlikeOutside arguments second third) :
    AlikeOutside arguments first third where
  memories handle unbound := (late.memories handle unbound).trans (early.memories handle unbound)
  regions handle unbound := (late.regions handle unbound).trans (early.regions handle unbound)
  starts handle limit below :=
    (late.starts handle limit below).trans (early.starts handle limit below)

/-- A write into a region leaves what comes before the offset of the value. -/
theorem take_region?_write (store : Store) {value : BoundValue} {handle : Handle .region}
    {limit : Nat} (below : ∀ offset, value = .svm handle offset → limit ≤ offset) (start : Nat)
    (patch : Bytes) :
    ((store.write value start patch).region? handle).map (List.take limit) =
      (store.region? handle).map (List.take limit) := by
  by_cases behind : value.object? = some (.region handle)
  · cases value with
    | svm other offset =>
        cases behind
        have before : limit ≤ offset + start := by
          have limit_le := below offset rfl
          omega
        simp [write, region?, Function.comp_def, Bytes.take_overwrite before]
    | scalar _ | buffer _ | image _ | localMemory _ | sampler _ => cases behind
  · rw [store.region?_write_of_ne behind start patch]

/-- One write through a bound value. -/
theorem write_alikeOutside (store : Store) {position : Nat} {value : BoundValue}
    (bound : arguments.get? position = some value) (start : Nat) (patch : Bytes) :
    AlikeOutside arguments store (store.write value start patch) where
  memories handle unbound := by
    refine store.memory?_write_of_ne (fun behind => ?_) start patch
    cases value with
    | buffer other =>
        cases behind
        exact (unbound position).1 bound
    | image other =>
        cases behind
        exact (unbound position).2 bound
    | scalar _ | svm _ _ | localMemory _ | sampler _ => cases behind
  regions handle unbound := by
    refine store.region?_write_of_ne (fun behind => ?_) start patch
    cases value with
    | svm other offset =>
        cases behind
        exact unbound position offset bound
    | scalar _ | buffer _ | image _ | localMemory _ | sampler _ => cases behind
  starts handle limit below :=
    store.take_region?_write (fun offset same => below position offset (same ▸ bound)) start patch

end Store

variable {κ : Type}

theorem runHost_alikeOutside (state : Simulator κ) (kernel : Kernel) (geometry : Geometry) :
    state.store.AlikeOutside kernel.arguments (state.runHost kernel geometry).2 :=
  runHost_invariant (state.store.AlikeOutside kernel.arguments)
    (fun _ _ bound store start patch alike =>
      alike.trans (store.write_alikeOutside bound start patch))
    geometry (.refl state.store)

/-! ## All of the device -/

/-- What a launch of a kernel leaves as it was, and the record that it adds. -/
structure LaunchFrame (kernel : Kernel) (geometry : Geometry) (before after : Simulator κ) :
    Prop where
  /-- Memory that is not bound to the kernel. -/
  outside : before.store.AlikeOutside kernel.arguments after.store
  /-- The lengths and sorts of all memory, also of what is bound. -/
  shape : before.store.SameShape after.store
  /-- Programs. -/
  programs : after.programs = before.programs
  /-- Kernels with all that is bound to them. -/
  kernels : after.kernels = before.kernels
  /-- Samplers. -/
  samplers : after.samplers = before.samplers
  /-- The record of builds. -/
  builds : after.builds = before.builds
  /-- What the device was set up with. -/
  setup : after.setup = before.setup
  /-- The record of launches has one more, with the arguments that the kernel has. -/
  launches : after.launches.toList =
    before.launches.toList ++ [⟨kernel.name, geometry, kernel.arguments⟩]

/-- A launch that succeeds writes into what is bound to its kernel and into no more of that than
the host kernel is shown, and leaves one record. -/
theorem launch_framed {state after : Simulator κ} {handle : Handle .kernel} {geometry : Geometry}
    (launched : perform (.launch handle geometry) state = (.ok (), after)) :
    ∃ kernel, state.kernels[handle.index]? = some kernel ∧
      LaunchFrame kernel geometry state after := by
  rcases state.launch_cases handle geometry with ⟨error, refused⟩ | ⟨kernel, checked, accepted⟩
  · cases refused.symm.trans launched
  · cases accepted.symm.trans launched
    have steady := state.launched_steady kernel geometry
    exact ⟨kernel, (checkLaunch_ok.mp checked).1,
      { outside := state.runHost_alikeOutside kernel geometry
        shape := steady.shape
        programs := steady.programs
        kernels := steady.kernels
        samplers := steady.samplers
        builds := steady.builds
        setup := steady.setup
        launches := Array.toList_push }⟩

/-- A region bound twice, at neither time from its start, and the second of two buffers. -/
def overlappingValues : List (Nat × BoundValue) :=
  [(0, .buffer ⟨1⟩), (1, .svm ⟨0⟩ 4), (2, .svm ⟨0⟩ 2)]

/-- Calls that make two buffers and a region, and bind overlapping values. -/
def overlappingCalls : List Call :=
  [.buildProgram (.source "f") "", .createKernel ⟨0⟩ "f", .createBuffer [1, 2] 2,
    .createBuffer [3] 1, .createRegion [4, 5] 6] ++
    overlappingValues.map fun entry => .bind ⟨0⟩ entry.1 entry.2

theorem launch_framed_overlappingCalls :
    let state := (new stampingSetup ()).after overlappingCalls
    ∃ kernel after, perform (.launch ⟨0⟩ ⟨[8], [0], [0]⟩) state = (.ok (), after) ∧
      LaunchFrame kernel ⟨[8], [0], [0]⟩ state after ∧
      after.store.memory? ⟨0⟩ = some ⟨[1, 2], none⟩ ∧
      (after.store.region? ⟨0⟩).map (List.take 2) = some [4, 5] ∧
      (after.store.region? ⟨0⟩).map (List.drop 2) = some [254, 0, 0, 0] := by
  intro state
  obtain ⟨kernel, named, frame⟩ := launch_framed
    (Prod.ext rfl rfl : perform (.launch ⟨0⟩ ⟨[8], [0], [0]⟩) state = (.ok (), _))
  obtain rfl : ⟨"f", .ofList overlappingValues⟩ = kernel :=
    Option.some.inj ((by decide +kernel : _ = _).trans named)
  have values : ∀ position value,
      (PositionMap.ofList overlappingValues).get? position = some value →
        value = .buffer ⟨1⟩ ∨ value = .svm ⟨0⟩ 4 ∨ value = .svm ⟨0⟩ 2 := by
    intro position value bound
    have listed := PositionMap.mem_of_get?_ofList bound
    simp only [overlappingValues, List.mem_cons, Prod.mk.injEq, List.not_mem_nil,
      or_false] at listed
    exact listed.imp And.right (Or.imp And.right And.right)
  refine ⟨_, _, rfl, frame, frame.outside.memories ⟨0⟩ fun position => ⟨?_, ?_⟩,
    frame.outside.starts ⟨0⟩ 2 ?_, by decide +kernel⟩
  · intro bound
    simpa using values position _ bound
  · intro bound
    simpa using values position _ bound
  · intro position offset bound
    have offset_eq : offset = 4 ∨ offset = 2 := by simpa using values position _ bound
    omega

end Simulator

end LaunchReplay
