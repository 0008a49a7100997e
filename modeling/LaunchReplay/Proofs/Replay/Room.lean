import LaunchReplay.Proofs.Capture.Read
import LaunchReplay.Proofs.Replay.Order
import LaunchReplay.Proofs.Replay.Stages

/-!
# Room for a replay

A call for which a host has no memory does not come back: the program ends there. A replay takes new
memory only as long as some captured content, and those were in memory before it began. So where the
files of a capture had room, every call of its replay has.
-/

namespace LaunchReplay

variable {σ ε α β κ : Type} {allowed : Call → Prop} {post : α → Prop}

/-! ## Computations that make certain calls only -/

/-- Whether exchanges ask for nothing but certain calls, and a value that comes of them is as
expected. -/
structure Within (allowed : Call → Prop) (post : α → Prop) (exchanges : List Exchange)
    (outcome : Except ε α) : Prop where
  /-- Every call is one of them. -/
  calls : ∀ exchange ∈ exchanges, allowed exchange.call
  /-- The value is as expected. -/
  value : ∀ value, outcome = .ok value → post value

namespace DeviceM

theorem records_within_pure {value : α} (holds : post value) :
    Records (Within allowed post) (pure value : DeviceM σ ε α) (pure value) := by
  refine records_pure ⟨List.forall_mem_nil _, ?_⟩
  rintro _ ⟨⟩
  exact holds

theorem records_within_ask [Device σ] {wrap : DeviceError → ε} {call : Call}
    (allows : allowed call) :
    Records (Within allowed fun _ => True) (ask wrap call : DeviceM σ ε _) (ask wrap call) :=
  records_ask fun _ => ⟨List.forall_mem_singleton.mpr allows, fun _ _ => trivial⟩

theorem records_within_bind {mid : β → Prop} {first : DeviceM σ ε β}
    {first' : DeviceM (Traced σ) ε β} {next : β → DeviceM σ ε α}
    {next' : β → DeviceM (Traced σ) ε α} (start : Records (Within allowed mid) first first')
    (goes_on : ∀ value, mid value → Records (Within allowed post) (next value) (next' value)) :
    Records (Within allowed post) (first >>= next) (first' >>= next') := by
  refine records_bind start (fun _ _ early => ⟨early.calls, nofun⟩) fun exchanges value early => ?_
  refine (goes_on value (early.value value rfl)).imp fun more outcome late => ⟨?_, late.value⟩
  intro exchange listed
  rcases List.mem_append.mp listed with listed | listed
  · exact early.calls exchange listed
  · exact late.calls exchange listed

end DeviceM

/-- Steps that ask for certain calls only make no others. -/
theorem Course.within {asks : β → Call → Prop} {steps : List β} {exchanges : List Exchange}
    {outcome : Except ReplayError α} (course : Course asks post steps exchanges outcome)
    (asked : ∀ step ∈ steps, ∀ call, asks step call → allowed call) :
    Within allowed post exchanges outcome where
  calls exchange listed := by
    obtain ⟨taken, first, related⟩ := course.asked_in_order
    obtain ⟨step, step_mem, asks⟩ := Outcome.exists_of_mem_of_forall₂ related listed
    exact asked step (first.subset step_mem) exchange.call asks
  value value ended := by
    rw [ended] at course
    exact course.taken_of_ok.1

/-! ## Calls that take no more memory than a captured content -/

/-- Whether all new memory that a call takes on a simulated device is as long as some captured
content. -/
def Call.TakesCaptured (κ : Type) (table : ArgumentTable) (call : Call) : Prop :=
  ∀ state : Simulator κ, ∀ length ∈ state.demand call,
    ∃ position, (ArgumentTable.preState table position).length = length

variable {table : ArgumentTable} {capture : Capture} {kernel : Handle .kernel}

/-- Most kinds of call take no new memory. -/
theorem Call.takesCaptured_of_method {call : Call} (not_buffer : call.method ≠ .createBuffer)
    (not_region : call.method ≠ .createRegion) (not_read : call.method ≠ .readBack) :
    call.TakesCaptured κ table := by
  intro state length taken
  cases call with
  | createBuffer _ _ => exact absurd rfl not_buffer
  | createRegion _ _ => exact absurd rfl not_region
  | readBack _ => exact absurd rfl not_read
  | _ => exact absurd taken List.not_mem_nil

theorem Bindings.exists_length_eq_longest {positions : List Nat} (nonempty : positions ≠ []) :
    ∃ position, (ArgumentTable.preState table position).length = longest table positions := by
  obtain ⟨position, _, length_eq⟩ := (isGreatest_longest nonempty).1
  exact ⟨position, length_eq⟩

/-- The object for a group is as long as the longest content of its members. -/
theorem ReplayStep.takesCaptured_makingOf {object : Allocation} (nonempty : object.positions ≠ []) :
    (makingOf table object).TakesCaptured κ table := by
  cases object with
  | buffer group =>
      intro state length taken
      obtain rfl := List.mem_singleton.mp taken
      exact Bindings.exists_length_eq_longest nonempty
  | region group =>
      intro state length taken
      rw [makingOf, Simulator.demand] at taken
      split at taken
      · obtain rfl := List.mem_singleton.mp taken
        exact Bindings.exists_length_eq_longest nonempty
      · cases taken
  | image _ _ _ | sampler _ _ => exact Call.takesCaptured_of_method nofun nofun nofun

theorem ReplayStep.takesCaptured_of_preparing {step : ReplayStep} {call : Call}
    (listed : step ∈ preparing capture.arguments) (asked : step.Asks capture kernel call) :
    call.TakesCaptured κ capture.arguments := by
  rw [preparing_eq] at listed
  rcases List.mem_append.mp listed with made | bound
  · obtain ⟨object, object_mem, rfl⟩ := List.mem_map.mp made
    obtain rfl := asked
    exact takesCaptured_makingOf (Allocation.isAliasClass_of_mem_all object_mem).nonempty
  · obtain ⟨entry, _, rfl⟩ := List.mem_map.mp bound
    obtain ⟨value, rfl⟩ := asked
    exact Call.takesCaptured_of_method nofun nofun nofun

/-! ## The calls of a replay -/

/-- An attempt builds a program and makes a kernel, and neither takes memory of a given length. -/
theorem Attempt.takesCaptured {launch : Launch} {image : ProgramImage} {exchanges : List Exchange}
    {outcome : Except Refusal (Handle .kernel)}
    (attempt : Attempt launch image exchanges outcome) {exchange : Exchange}
    (listed : exchange ∈ exchanges) : exchange.call.TakesCaptured κ table := by
  cases attempt with
  | unbuilt _ =>
      obtain rfl := List.mem_singleton.mp listed
      exact Call.takesCaptured_of_method nofun nofun nofun
  | kernelless _ _ | usable _ _ =>
      rcases List.mem_pair.mp listed with rfl | rfl <;>
        exact Call.takesCaptured_of_method nofun nofun nofun

theorem Fallback.takesCaptured {launch : Launch} {candidates : List NamedBlob}
    {exchanges : List Exchange} {found : Option (Handle .kernel)}
    (fallback : Fallback launch candidates exchanges found) {exchange : Exchange}
    (listed : exchange ∈ exchanges) : exchange.call.TakesCaptured κ table := by
  induction fallback with
  | exhausted => cases listed
  | rejected attempt _ induction =>
      rcases List.mem_append.mp listed with early | late
      · exact attempt.takesCaptured early
      · exact induction late
  | accepted attempt => exact attempt.takesCaptured listed

theorem Acquires.takesCaptured {launch : Launch} {program : Program} {exchanges : List Exchange}
    {outcome : Except ReplayError (Handle .kernel)}
    (acquires : Acquires launch program exchanges outcome) {exchange : Exchange}
    (listed : exchange ∈ exchanges) : exchange.call.TakesCaptured κ table := by
  cases acquires with
  | source attempt | intermediate attempt => exact attempt.takesCaptured listed
  | absent => cases listed
  | accepted fallback | exhausted fallback _ => exact fallback.takesCaptured listed

variable [Device σ]

/-- What is read back after the launches is as long as it was before them. -/
theorem Bindings.length_of_mem_outputs {plan : AliasPlan} {before after : σ} {bindings : Bindings}
    (created : create table plan kernel before = (.ok bindings, after)) {slot : OutputSlot}
    (listed : slot ∈ bindings.outputs) :
    slot.length = (ArgumentTable.preState table slot.position).length := by
  obtain ⟨_, _, _, bound, _, _, outputs_eq⟩ := create_reports created
  rw [outputs_eq] at listed
  obtain ⟨⟨position, value⟩, _, made⟩ := List.mem_filterMap.mp listed
  obtain ⟨rfl, _, length_eq⟩ := slot?_eq_some made
  exact length_eq

theorem Bindings.records_create_takesCaptured (κ : Type) (capture : Capture)
    (kernel : Handle .kernel) :
    Records (Within (Call.TakesCaptured κ capture.arguments) fun bindings =>
        ∀ slot ∈ bindings.outputs,
          slot.length = (ArgumentTable.preState capture.arguments slot.position).length)
      (create capture.arguments (.resolve capture.arguments) kernel : DeviceM σ ReplayError _)
      (create capture.arguments (.resolve capture.arguments) kernel) := by
  refine ((records_create capture kernel).and_value fun _ _ _ created _ =>
    length_of_mem_outputs created).imp fun exchanges outcome ⟨records, lengths⟩ => ⟨?_, lengths⟩
  rcases records with ⟨rfl, _⟩ | course
  · exact List.forall_mem_nil _
  · exact (course.within fun _ listed _ => ReplayStep.takesCaptured_of_preparing listed).calls

theorem Output.records_execute_takesCaptured (κ : Type) (capture : Capture)
    (kernel : Handle .kernel) (repetitions : Nat) :
    Records (Within (Call.TakesCaptured κ capture.arguments) fun _ => True)
      (execute kernel capture.launch.geometry repetitions : DeviceM σ ReplayError _)
      (execute kernel capture.launch.geometry repetitions) := by
  by_cases none : repetitions = 0
  · rw [execute_eq_throw none, execute_eq_throw none]
    exact DeviceM.records_throw ⟨List.forall_mem_nil _, nofun⟩
  · refine (records_execute capture kernel none).imp fun _ _ course => course.within ?_
    intro step listed call asked
    obtain rfl := List.eq_of_mem_replicate listed
    obtain rfl := asked
    exact Call.takesCaptured_of_method nofun nofun nofun

theorem Output.records_readBack_takesCaptured (κ : Type) {slots : List OutputSlot}
    (lengths : ∀ slot ∈ slots,
      slot.length = (ArgumentTable.preState table slot.position).length) :
    Records (Within (Call.TakesCaptured κ table) fun _ => True)
      (readBack slots : DeviceM σ ReplayError _) (readBack slots) := by
  have captured : (Call.readBack (slots.map (·.request))).TakesCaptured κ table := by
    intro state length taken
    rw [Simulator.demand, List.map_map] at taken
    obtain ⟨slot, listed, rfl⟩ := List.mem_map.mp taken
    exact ⟨slot.position, (lengths slot listed).symm⟩
  rw [readBack, readBack]
  exact DeviceM.records_within_bind (DeviceM.records_within_ask captured) fun contents _ =>
    DeviceM.records_within_pure trivial

namespace DeviceReplay

/-- No call of a replay takes new memory but as long as some captured content. -/
theorem records_takesCaptured (κ : Type) (config : ReplayConfig) (capture : Capture) :
    Records (Within (Call.TakesCaptured κ capture.arguments) fun _ => True)
      (perform config capture : DeviceM σ ReplayError _) (perform config capture) := by
  rw [perform_eq, perform_eq]
  refine DeviceM.records_within_bind ((Program.records_acquire capture.launch capture.program).imp
    fun _ _ acquires => ⟨fun _ => acquires.takesCaptured, fun _ _ => trivial⟩) fun acquired _ => ?_
  rw [work, work]
  refine DeviceM.records_within_bind
    (Bindings.records_create_takesCaptured κ capture acquired.kernel) fun bindings lengths => ?_
  refine DeviceM.records_within_bind
    (Output.records_execute_takesCaptured κ capture acquired.kernel config.repetitions)
    fun enqueues _ => ?_
  refine DeviceM.records_within_bind (Output.records_readBack_takesCaptured κ lengths)
    fun outputs _ => ?_
  exact DeviceM.records_info_bind fun device => DeviceM.records_within_pure trivial

end DeviceReplay

/-- Where the captured contents have room, a simulated device has room for every call of their
replay. -/
theorem Replay.replay_hasRoomFor {config : ReplayConfig} {tree : FileTree}
    (room : ∀ position,
      (ArgumentTable.preState capture.arguments position).length < Simulator.memoryLimit)
    (device : Traced σ) :
    ∃ exchanges, (replay config capture tree device).2.2.history = device.history ++ exchanges ∧
      ∀ exchange ∈ exchanges, ∀ state : Simulator κ, state.hasRoomFor exchange.call = true := by
  obtain ⟨exchanges, within, ended⟩ := DeviceReplay.records_takesCaptured κ config capture device
  refine ⟨exchanges, ?_, fun exchange listed state => List.all_eq_true.mpr fun length taken => ?_⟩
  · rw [replay, ended]
    generalize DeviceReplay.perform config capture device.device = run
    obtain ⟨error | replayed, used⟩ := run
    · rfl
    · dsimp only
      split <;> rfl
  · obtain ⟨position, rfl⟩ := within.calls exchange listed state length taken
    exact decide_eq_true (room position)

/-- Where every file that can be read has room in host memory, a simulated device has room for every
call of a replay from these files. -/
theorem Replay.run_hasRoomFor {config : ReplayConfig} {root : Path} {tree : FileTree}
    (room : ∀ path content, tree.readFile path = .ok content →
      content.length < Simulator.memoryLimit)
    (device : Traced σ) :
    ∃ exchanges, (run config root tree device).2.2.history = device.history ++ exchanges ∧
      ∀ exchange ∈ exchanges, ∀ state : Simulator κ, state.hasRoomFor exchange.call = true := by
  unfold run
  split
  · exact ⟨[], (List.append_nil _).symm, List.forall_mem_nil _⟩
  · rename_i capture read
    refine replay_hasRoomFor (fun position => ?_) device
    cases memory : (capture.arguments.get? position).bind Argument.preState? with
    | none =>
        rw [ArgumentTable.preState, memory]
        simp [Simulator.memoryLimit]
    | some content =>
        obtain ⟨argument, held, memory_eq⟩ := Option.bind_eq_some_iff.mp memory
        obtain ⟨path, file⟩ := Capture.exists_readFile_of_preState read held memory_eq
        rw [ArgumentTable.preState, memory]
        exact room path content file

end LaunchReplay
