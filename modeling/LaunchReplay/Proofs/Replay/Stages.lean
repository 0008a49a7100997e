import LaunchReplay.Proofs.Device.Steps
import LaunchReplay.Replay.Run

/-!
# Replays stage by stage

A replay that succeeds went through all its stages without an error, on whatever device. Its
outputs are at positions of the captured arguments, in ascending order, none of them twice.
-/

namespace LaunchReplay

variable {σ : Type} [Device σ] {config : ReplayConfig} {capture : Capture} {tree written : FileTree}
  {root : Path} {device after : σ} {summary : ReplaySummary} {work : DeviceReplay}

/-! ## Stages -/

theorem Output.execute_ok {kernel : Handle .kernel} {geometry : Geometry}
    {repetitions enqueues : Nat} {bound launched : σ}
    (run : execute kernel geometry repetitions bound = (.ok enqueues, launched)) :
    enqueues = repetitions ∧
      launchTimes kernel geometry repetitions bound = (.ok (), launched) := by
  rw [execute] at run
  split at run
  · obtain ⟨_, _, refused, _⟩ := DeviceM.bind_ok.mp run
    exact (DeviceM.throw_ok refused).elim
  · obtain ⟨_, final, launching, finished⟩ := DeviceM.bind_ok.mp run
    obtain ⟨rfl, rfl⟩ := DeviceM.pure_ok.mp finished
    exact ⟨rfl, launching⟩

/-- What a replay did on a device, part by part, and what it reports about that. -/
theorem DeviceReplay.perform_reports (run : perform config capture device = (.ok work, after)) :
    ∃ prepared bindings bound launched,
      capture.program.acquire capture.launch device = (.ok work.acquired, prepared) ∧
      Bindings.create capture.arguments (.resolve capture.arguments) work.acquired.kernel prepared =
        (.ok bindings, bound) ∧
      Output.launchTimes work.acquired.kernel capture.launch.geometry config.repetitions bound =
        (.ok (), launched) ∧
      Output.readBack bindings.outputs launched = (.ok work.outputs, after) ∧
      work.enqueues = config.repetitions ∧
      work.notices = capture.notices ++ (AliasPlan.resolve capture.arguments).notices ++
        work.acquired.notices := by
  obtain ⟨acquired, prepared, acquiring, rest⟩ := DeviceM.bind_ok.mp run
  obtain ⟨bindings, bound, binding, rest⟩ := DeviceM.bind_ok.mp rest
  obtain ⟨enqueues, launched, executing, rest⟩ := DeviceM.bind_ok.mp rest
  obtain ⟨outputs, final, reading, rest⟩ := DeviceM.bind_ok.mp rest
  obtain ⟨info, _, asking, finished⟩ := DeviceM.bind_ok.mp rest
  obtain ⟨_, rfl⟩ := DeviceM.info_ok.mp asking
  obtain ⟨rfl, rfl⟩ := DeviceM.pure_ok.mp finished
  obtain ⟨rfl, launching⟩ := Output.execute_ok executing
  exact ⟨prepared, bindings, bound, launched, acquiring, binding, launching, reading, rfl, rfl⟩

theorem DeviceReplay.perform_ok (run : perform config capture device = (.ok work, after)) :
    ∃ acquired prepared bindings bound launched,
      capture.program.acquire capture.launch device = (.ok acquired, prepared) ∧
      Bindings.create capture.arguments (.resolve capture.arguments) acquired.kernel prepared =
        (.ok bindings, bound) ∧
      Output.launchTimes acquired.kernel capture.launch.geometry config.repetitions bound =
        (.ok (), launched) ∧
      Output.readBack bindings.outputs launched = (.ok work.outputs, after) := by
  obtain ⟨prepared, bindings, bound, launched, acquiring, binding, launching, reading, _⟩ :=
    perform_reports run
  exact ⟨work.acquired, prepared, bindings, bound, launched, acquiring, binding, launching, reading⟩

/-- A replay that succeeds did all its work on the device without an error. -/
theorem Replay.perform_of_replay_ok
    (replayed : replay config capture tree device = (.ok summary, written, after)) :
    ∃ work, DeviceReplay.perform config capture device = (.ok work, after) ∧
      ∃ paths, write config capture work.outputs tree = (.ok paths, written) ∧
        summary = work.summary capture.launch paths := by
  rw [replay] at replayed
  split at replayed
  · cases replayed
  · rename_i work used performed
    split at replayed <;> cases replayed
    rename_i paths wrote
    exact ⟨work, performed, paths, wrote, rfl⟩

theorem Replay.run_ok
    (replayed : run config root tree device = (.ok summary, written, after)) :
    ∃ capture, Capture.read tree root ⟨config.forceSvm⟩ = .ok capture ∧
      replay config capture tree device = (.ok summary, written, after) := by
  unfold run at replayed
  split at replayed
  · cases replayed
  · rename_i capture read
    exact ⟨capture, read, replayed⟩

/-! ## Positions of outputs -/

namespace Bindings

variable {table : ArgumentTable} {plan : AliasPlan} {kernel : Handle .kernel}
  {targets : BindingTargets} {before : σ}

theorem position_of_slot? {bound : Nat × BoundValue} {slot : OutputSlot}
    (made : slot? table bound = some slot) : slot.position = bound.1 := by
  obtain ⟨position, value⟩ := bound
  cases value <;> cases made <;> rfl

theorem slots_sublist (table : ArgumentTable) (bound : List (Nat × BoundValue)) :
    List.Sublist ((bound.filterMap (slot? table)).map (·.position)) (bound.map (·.1)) := by
  induction bound with
  | nil => exact .slnil
  | cons value rest induction =>
      cases made : slot? table value with
      | none => simpa [made] using induction.cons value.1
      | some slot => simpa [made, position_of_slot? made] using induction

theorem value_of_bindEntry {entry : Nat × Argument} {value : Nat × BoundValue}
    (run : bindEntry kernel targets entry before = (.ok value, after)) :
    entry.1 = value.1 ∧ targets.value entry = .ok value.2 := by
  rw [bindEntry] at run
  cases valued : targets.value entry with
  | error error =>
      rw [valued] at run
      exact (DeviceM.throw_ok run).elim
  | ok found =>
      rw [valued] at run
      obtain ⟨_, _, _, finished⟩ := DeviceM.bind_ok.mp run
      obtain ⟨rfl, _⟩ := DeviceM.pure_ok.mp finished
      exact ⟨rfl, rfl⟩

/-- Objects were made, and a value was bound for each argument. -/
theorem create_reports {bindings : Bindings}
    (created : create table plan kernel before = (.ok bindings, after)) :
    ∃ (checked filled : σ) (targets : BindingTargets) (bound : List (Nat × BoundValue)),
      (Allocation.all plan table).foldlM (allocate table) .empty checked = (.ok targets, filled) ∧
      List.Forall₂ (fun entry value => entry ∈ table.entries ∧ entry.1 = value.1 ∧
        targets.value entry = .ok value.2) table.entries bound ∧
      bindings.outputs = bound.filterMap (slot? table) := by
  obtain ⟨_, checked, _, rest⟩ := DeviceM.bind_ok.mp created
  obtain ⟨targets, filled, making, rest⟩ := DeviceM.bind_ok.mp rest
  obtain ⟨bound, _, binding, finished⟩ := DeviceM.bind_ok.mp rest
  obtain ⟨rfl, _⟩ := DeviceM.pure_ok.mp finished
  refine ⟨checked, filled, targets, bound, making, ?_, rfl⟩
  refine DeviceM.forall₂_of_mapM_ok (fun entry entry_mem _ _ _ bindOne => ?_) binding
  exact ⟨entry_mem, value_of_bindEntry bindOne⟩

theorem outputs_sublist {bindings : Bindings}
    (created : create table plan kernel before = (.ok bindings, after)) :
    List.Sublist (bindings.outputs.map (·.position)) table.positions := by
  obtain ⟨_, _, _, bound, _, related, outputs_eq⟩ := create_reports created
  have positions_eq : table.positions = bound.map (·.1) := by
    rw [PositionMap.positions, ← List.forall₂_eq_eq_eq, List.forall₂_map_left_iff,
      List.forall₂_map_right_iff]
    exact related.imp fun _ _ bindOne => bindOne.2.1
  rw [positions_eq, outputs_eq]
  exact slots_sublist table bound

end Bindings

theorem Output.outputs_sublist {slots : List OutputSlot} {outputs : List Output} {launched : σ}
    (run : readBack slots launched = (.ok outputs, after)) :
    List.Sublist (outputs.map (·.position)) (slots.map (·.position)) := by
  obtain ⟨contents, _, _, finished⟩ := DeviceM.bind_ok.mp run
  obtain ⟨rfl, _⟩ := DeviceM.pure_ok.mp finished
  clear * -
  induction slots with
  | nil => simp
  | cons slot rest induction =>
      cases contents with
      | nil => simp
      | cons bytes more => simpa using induction more

/-- Whatever a device answers, outputs are at positions of arguments, in their order. -/
theorem DeviceReplay.outputs_sublist (run : perform config capture device = (.ok work, after)) :
    List.Sublist (work.outputs.map (·.position)) capture.arguments.positions := by
  obtain ⟨_, _, _, _, _, _, creating, _, reading⟩ := perform_ok run
  exact (Output.outputs_sublist reading).trans (Bindings.outputs_sublist creating)

end LaunchReplay
