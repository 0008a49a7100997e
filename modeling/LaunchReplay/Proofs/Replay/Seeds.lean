import LaunchReplay.Proofs.Replay.Idle
import LaunchReplay.Proofs.Simulator.WellBound

/-!
# Outputs of idle kernels

A kernel without a host kernel leaves memory as it was created. So what is read back for a position
begins the content of the lowest position that shares memory with it, which is its own content
before the launch only if there is no lower one, or if the content of the lowest begins just so.
-/

namespace LaunchReplay

open Simulator

variable {κ : Type} {table : ArgumentTable}

/-- A position with which no lower one is aliased is the lowest that shares its allocation. -/
theorem ArgumentTable.isLeast_self {position : Nat}
    (lowest : ∀ other, table.Aliased position other → position ≤ other) :
    IsLeast {other | table.Shares position other} position := by
  refine ⟨.inl rfl, ?_⟩
  rintro other (rfl | aliased)
  · exact Nat.le_refl _
  · exact lowest other aliased

namespace Output

/-- Outputs that show with what memory was filled when it was created. -/
structure ShowsSeeds (table : ArgumentTable) (outputs : List Output) : Prop where
  /-- There is one output for each argument with memory, as long as its content before the
  launch. -/
  complete : Complete table outputs
  /-- An output begins the content of the lowest position that shares its allocation, followed by
  zeros. So it is as it was before the launch exactly if that content begins with it. -/
  seeded : ∀ output ∈ outputs, ∃ seed, IsLeast {other | table.Shares output.position other} seed ∧
    let own := ArgumentTable.preState table output.position
    let filled := (ArgumentTable.preState table seed).extendTo own.length
    output.bytes = filled.take own.length ∧ (output.bytes = own ↔ own <+: filled)
  /-- An output is as it was before the launch if it is that of an image, or shares with no other
  position, or with no lower one. -/
  own : ∀ output ∈ outputs,
    (output.kind = .image ∨
      (∀ other, table.Shares output.position other → other = output.position) ∨
      ∀ other, table.Aliased output.position other → output.position ≤ other) →
    output.bytes = ArgumentTable.preState table output.position

variable {outputs : List Output}

theorem ShowsSeeds.of_seeded (complete : Complete table outputs)
    (begun : ∀ output ∈ outputs, ∃ content, SeededFor table output.position content ∧
      output.bytes = content.take (ArgumentTable.preState table output.position).length) :
    ShowsSeeds table outputs := by
  have shown : ∀ output ∈ outputs, ∀ seed,
      IsLeast {other | table.Shares output.position other} seed →
        output.bytes = ((ArgumentTable.preState table seed).extendTo
          (ArgumentTable.preState table output.position).length).take
            (ArgumentTable.preState table output.position).length := by
    intro output output_mem seed least
    obtain ⟨content, seeded, read⟩ := begun output output_mem
    exact read.trans (seeded.take_eq least (Nat.le_refl _))
  refine ⟨complete, fun output output_mem => ?_, fun output output_mem sort => ?_⟩
  · obtain ⟨_, ⟨seed, _, least, _⟩, _⟩ := begun output output_mem
    have bytes_eq := shown output output_mem seed least
    refine ⟨seed, least, bytes_eq, ?_⟩
    rw [bytes_eq, List.prefix_iff_eq_take, eq_comm]
  · have lowest : ∀ other, table.Aliased output.position other → output.position ≤ other := by
      rcases sort with image | alone | lowest
      · intro other aliased
        exact absurd aliased
          (ArgumentTable.not_aliased_of_image ((complete.image output output_mem).mp image))
      · exact fun other aliased => (alone other (.inr aliased)).ge
      · exact lowest
    rw [shown output output_mem _ (ArgumentTable.isLeast_self lowest), Bytes.extendTo,
      List.take_left]

end Output

namespace Bindings

variable {kernel : Handle .kernel} {before after : Simulator κ} {values : PositionMap BoundValue}

/-- What would be read back right after binding shows the seeds. -/
theorem Bound.showsSeeds (bound : Bound table (.resolve table) kernel before values after) :
    Output.ShowsSeeds table
      ((values.entries.filterMap (slot? table)).map (Output.ofSlot after.store)) := by
  refine .of_seeded (bound.complete (.refl after)) fun output output_mem => ?_
  obtain ⟨slot, slot_mem, rfl⟩ := List.mem_map.mp output_mem
  exact bound.exists_seeded slot_mem

/-- Outputs are read back alike from memory that launches did not change. -/
theorem Bound.readBack_of_undisturbed {later : Simulator κ}
    (bound : Bound table (.resolve table) kernel before values after)
    (undisturbed : Undisturbed after later) :
    Output.readBack (values.entries.filterMap (slot? table)) later =
      (.ok ((values.entries.filterMap (slot? table)).map (Output.ofSlot after.store)), later) := by
  rw [Output.readBack_of_readable fun slot => bound.readable undisturbed.steady, undisturbed.store]

/-- However often and with whatever index spaces a kernel without a host kernel is launched, the
outputs that are read back are the seeds. -/
theorem readBack_after_idle_launches {object : Kernel} {bindings : Bindings} {bound : Simulator κ}
    (named : before.kernels[kernel.index]? = some object)
    (idle : before.setup.hostKernel? object.name = none)
    (created : create table (.resolve table) kernel before = (.ok bindings, bound)) :
    ∃ outputs, Output.ShowsSeeds table outputs ∧
      (∀ geometry repetitions,
        let launched := (Output.launchTimes kernel geometry repetitions bound).2
        Output.readBack bindings.outputs launched = (.ok outputs, launched)) ∧
      ∀ geometries : List Geometry,
        let launched := bound.after (geometries.map (.launch kernel))
        Output.readBack bindings.outputs launched = (.ok outputs, launched) := by
  obtain ⟨values, binding, rfl⟩ := create_ok created
  have named := binding.getElem?_kernels named
  have setup_eq : bound.setup = before.setup := by
    rw [binding.after_eq]
    rfl
  have still_idle : bound.setup.hostKernel? object.name = none := setup_eq ▸ idle
  refine ⟨_, binding.showsSeeds, fun geometry repetitions => ?_, fun geometries => ?_⟩
  · exact binding.readBack_of_undisturbed
      (launchTimes_undisturbed named still_idle geometry repetitions)
  · refine binding.readBack_of_undisturbed (after_invariant (Undisturbed bound) ?_ (.refl bound))
    intro call call_mem state undisturbed
    obtain ⟨geometry, _, rfl⟩ := List.mem_map.mp call_mem
    exact undisturbed.launch named still_idle geometry

/-- Regions of one token, the second longer than the lowest, the third the start of it. -/
def unevenTable : ArgumentTable :=
  .ofList
    [(0, .svm (some [7]) [1, 2] 1), (1, .svm (some [7]) [9, 9, 9] 2), (2, .svm (some [7]) [1] 0),
      (3, .image ⟨.image1D, ⟨0x10B0, 0x10D2⟩, .line 2⟩ [8, 9])]

/-- A device without host kernels, and with one kernel. -/
def idleDevice : Simulator Unit :=
  (new .plain ()).after [.buildProgram (.source "f") "", .createKernel ⟨0⟩ "f"]

theorem readBack_unevenTable_after_idle_launches :
    idleDevice.kernels[0]? = some ⟨"f", .empty⟩ ∧ idleDevice.setup.hostKernel? "f" = none ∧
      ∃ bindings bound outputs,
        create unevenTable (.resolve unevenTable) ⟨0⟩ idleDevice = (.ok bindings, bound) ∧
        Output.ShowsSeeds unevenTable outputs ∧
        (Output.readBack bindings.outputs (bound.after [.launch ⟨0⟩ ⟨[8], [0], [0]⟩])).1 =
          .ok outputs ∧
        outputs.map (·.bytes) = [[1, 2], [1, 2, 0], [1], [8, 9]] := by
  have fresh : idleDevice.kernels[0]? = some ⟨"f", .empty⟩ := by decide +kernel
  refine ⟨fresh, rfl, ?_⟩
  -- What is read back is computed with the bindings still under the outcome that holds them.
  have computed :
      ((create unevenTable (.resolve unevenTable) ⟨0⟩ idleDevice).1.toOption.map fun bindings =>
        (Output.readBack bindings.outputs
          ((create unevenTable (.resolve unevenTable) ⟨0⟩ idleDevice).2.after
            [.launch ⟨0⟩ ⟨[8], [0], [0]⟩])).1.toOption.map (List.map (·.bytes))) =
        some (some [[1, 2], [1, 2, 0], [1], [8, 9]]) := by decide +kernel
  obtain ⟨bindings, bound, created⟩ := DeviceM.exists_of_isOk
    (by decide +kernel : (create unevenTable (.resolve unevenTable) ⟨0⟩ idleDevice).1.isOk)
  obtain ⟨outputs, shown, _, each⟩ := readBack_after_idle_launches fresh rfl created
  have read : (Output.readBack bindings.outputs (bound.after [.launch ⟨0⟩ ⟨[8], [0], [0]⟩])).1 =
      .ok outputs := congrArg Prod.fst (each [⟨[8], [0], [0]⟩])
  rw [created] at computed
  refine ⟨bindings, bound, outputs, created, shown, read, ?_⟩
  simpa [Except.toOption, read] using computed

end Bindings

end LaunchReplay
