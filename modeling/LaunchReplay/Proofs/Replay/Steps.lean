import LaunchReplay.Proofs.Replay.Aliasing
import LaunchReplay.Proofs.Replay.Attempts
import LaunchReplay.Replay.Outputs

/-!
# Steps of a replay

After the program is acquired, a replay makes one call for each of its steps: an object for each
group of buffers, for each group of regions and for each image or sampler, then a binding for each
position, then the launches, then one call that reads everything back.
-/

namespace LaunchReplay

/-- A step of a replay after its program is acquired. -/
inductive ReplayStep
  /-- An object is made. -/
  | make (object : Allocation)
  /-- A position is bound. -/
  | bind (position : Nat)
  /-- The kernel is launched. -/
  | launch
  /-- All outputs are read back. -/
  | readBack

namespace ReplayStep

/-- The call that makes an object. -/
def makingOf (table : ArgumentTable) : Allocation → Call
  | .buffer group =>
    .createBuffer (ArgumentTable.preState table (group.positions.headD 0))
      (Bindings.longest table group.positions)
  | .region group =>
    .createRegion (ArgumentTable.preState table (group.positions.headD 0))
      (Bindings.longest table group.positions)
  | .image _ descriptor preState => .createImage descriptor preState
  | .sampler _ descriptor => .createSampler descriptor

/-- Whether a call is what a step asks for, with the acquired kernel. -/
def Asks (capture : Capture) (kernel : Handle .kernel) : ReplayStep → Call → Prop
  | make object, call => call = makingOf capture.arguments object
  | bind position, call => ∃ value, call = .bind kernel position value
  | launch, call => call = .launch kernel capture.launch.geometry
  | readBack, call => ∃ requests, call = .readBack requests

/-- The steps up to the launches. -/
def preparing (table : ArgumentTable) : List ReplayStep :=
  (AliasPlan.resolve table).bufferGroups.map (fun group => make (.buffer group)) ++
    (AliasPlan.resolve table).svmGroups.map (fun group => make (.region group)) ++
    (table.entries.filterMap Allocation.ofEntry?).map make ++ table.positions.map bind

/-- The launches and what follows them. -/
def running (repetitions : Nat) : List ReplayStep :=
  List.replicate repetitions launch ++ [readBack]

/-- All steps, in their order. -/
def all (capture : Capture) (repetitions : Nat) : List ReplayStep :=
  preparing capture.arguments ++ running repetitions

theorem preparing_eq (table : ArgumentTable) :
    preparing table =
      (Allocation.all (.resolve table) table).map make ++ table.entries.map (bind ·.1) := by
  simp [preparing, Allocation.all, PositionMap.positions, Function.comp_def]

/-- Nothing that prepares the launches asks for one, or for what follows them. -/
theorem method_of_preparing {capture : Capture} {kernel : Handle .kernel} {step : ReplayStep}
    {call : Call} (listed : step ∈ preparing capture.arguments)
    (asked : step.Asks capture kernel call) :
    call.method ≠ .launch ∧ call.method ≠ .readBack := by
  rw [preparing_eq] at listed
  rcases List.mem_append.mp listed with made | bound
  · obtain ⟨object, _, rfl⟩ := List.mem_map.mp made
    obtain rfl := asked
    cases object <;> exact ⟨nofun, nofun⟩
  · obtain ⟨entry, _, rfl⟩ := List.mem_map.mp bound
    obtain ⟨value, rfl⟩ := asked
    exact ⟨nofun, nofun⟩

end ReplayStep

/-! ## Targets of positions -/

/-- Each argument that is not just a value has an object. -/
theorem Allocation.exists_object {table : ArgumentTable} {position : Nat} {argument : Argument}
    (held : table.get? position = some argument) (not_scalar : argument.kind ≠ .scalar)
    (not_local : argument.kind ≠ .localMemory) :
    ∃ object ∈ all (.resolve table) table, position ∈ object.positions := by
  have own_mem {own : Allocation} (own_made : ofEntry? (position, argument) = some own) :
      own ∈ all (.resolve table) table :=
    List.mem_append_right _
      (List.mem_filterMap.mpr ⟨_, PositionMap.get?_eq_some_iff.mp held, own_made⟩)
  cases argument with
  | scalar _ => exact absurd rfl not_scalar
  | localMemory _ => exact absurd rfl not_local
  | buffer identity preState =>
      obtain ⟨group, group_mem, inside⟩ := AliasPlan.exists_bufferGroup held
      exact ⟨.buffer group, by simp [all, group_mem], inside⟩
  | svm identity preState offset =>
      obtain ⟨group, group_mem, inside⟩ := AliasPlan.exists_svmGroup held
      exact ⟨.region group, by simp [all, group_mem], inside⟩
  | image descriptor preState => exact ⟨_, own_mem rfl, List.mem_singleton_self position⟩
  | sampler descriptor => exact ⟨_, own_mem rfl, List.mem_singleton_self position⟩

namespace BindingTargets

variable {targets middle grown : BindingTargets} {early late : List Nat}

/-- Whether targets have values for some positions besides those that had one before. -/
def Covers (before : BindingTargets) (positions : List Nat) (after : BindingTargets) : Prop :=
  ∀ position, (before.get? position).isSome ∨ position ∈ positions →
    (after.get? position).isSome

theorem Covers.refl (targets : BindingTargets) : Covers targets [] targets := by
  rintro position (held | listed)
  · exact held
  · cases listed

theorem Covers.trans (first : Covers targets early middle) (second : Covers middle late grown) :
    Covers targets (early ++ late) grown := by
  rintro position (held | listed)
  · exact second position (.inl (first position (.inl held)))
  · rcases List.mem_append.mp listed with inside | inside
    · exact second position (.inl (first position (.inr inside)))
    · exact second position (.inr inside)

theorem covers_assign (targets : BindingTargets) (members : List (Nat × BoundValue)) :
    Covers targets (members.map (·.1)) (targets.assign members) := by
  intro position held
  rw [assign, PositionMap.get?_foldl_insert, Option.isSome_or, Option.isSome_map, Bool.or_eq_true]
  rcases held with held | listed
  · exact .inr held
  · obtain ⟨member, member_mem, rfl⟩ := List.mem_map.mp listed
    refine .inl (List.find?_isSome.mpr ⟨member, List.mem_reverse.mpr member_mem, ?_⟩)
    exact beq_self_eq_true _

/-- Once there are targets for all objects of a table, each argument has a value to be bound. -/
theorem exists_value_of_covers {table : ArgumentTable}
    (covers : Covers .empty ((Allocation.all (.resolve table) table).flatMap Allocation.positions)
      targets) {entry : Nat × Argument} (entry_mem : entry ∈ table.entries) :
    ∃ value, targets.value entry = .ok value := by
  obtain ⟨position, argument⟩ := entry
  have held := PositionMap.get?_eq_some_iff.mpr entry_mem
  cases argument with
  | scalar _ | localMemory _ => exact ⟨_, rfl⟩
  | buffer _ _ | svm _ _ _ | image _ _ | sampler _ =>
      obtain ⟨object, made, inside⟩ := Allocation.exists_object held (by rintro ⟨⟩) (by rintro ⟨⟩)
      obtain ⟨value, found⟩ := Option.isSome_iff_exists.mp
        (covers position (.inr (List.mem_flatMap.mpr ⟨object, made, inside⟩)))
      exact ⟨value, by rw [BindingTargets.value, found] <;> simp⟩

end BindingTargets

variable {σ : Type} [Device σ] {capture : Capture} {kernel : Handle .kernel}

/-! ## Making and binding -/

namespace Bindings

open BindingTargets

variable {targets : BindingTargets}

omit [Device σ] in
theorem seedOf_eq_pure {positions : List Nat} (inhabited : positions ≠ []) :
    (seedOf positions.head? : DeviceM σ ReplayError Nat) = pure (positions.headD 0) := by
  obtain ⟨first, rest, rfl⟩ := List.exists_cons_of_ne_nil inhabited
  rfl

/-- Making an object asks for it alone and covers its positions. -/
theorem records_allocate {object : Allocation} (inhabited : object.positions ≠ []) :
    Records (Course (ReplayStep.Asks capture kernel) (Covers targets object.positions)
        [.make object])
      (allocate capture.arguments targets object : DeviceM σ ReplayError _)
      (allocate capture.arguments targets object) := by
  cases object with
  | buffer group =>
      replace inhabited : group.positions ≠ [] := inhabited
      rw [allocate, allocate, BufferGroup.representative?, seedOf_eq_pure inhabited,
        seedOf_eq_pure inhabited, pure_bind, pure_bind]
      refine DeviceM.records_course_ask_pure rfl (fun _ => rfl) fun memory => ?_
      have covers := covers_assign targets
        (group.positions.map fun position => (position, .buffer memory))
      rwa [List.map_map, Function.comp_def, List.map_id'] at covers
  | region group =>
      replace inhabited : group.positions ≠ [] := inhabited
      rw [allocate, allocate, SvmGroup.representative?, seedOf_eq_pure inhabited,
        seedOf_eq_pure inhabited, pure_bind, pure_bind]
      refine DeviceM.records_course_ask_pure rfl (fun _ => rfl) fun region => ?_
      have covers := covers_assign targets
        (group.members.map fun member => (member.1, .svm region member.2))
      rwa [List.map_map] at covers
  | image position descriptor preState =>
      exact DeviceM.records_course_ask_pure rfl (fun _ => rfl) fun memory =>
        covers_assign _ [(position, .image memory)]
  | sampler position descriptor =>
      exact DeviceM.records_course_ask_pure rfl (fun _ => rfl) fun sampler =>
        covers_assign _ [(position, .sampler sampler)]

/-- Making objects asks for each of them in order and covers all their positions. -/
theorem records_allocateAll {objects : List Allocation}
    (inhabited : ∀ object ∈ objects, object.positions ≠ []) :
    Records (Course (ReplayStep.Asks capture kernel)
        (Covers targets (objects.flatMap Allocation.positions)) (objects.map .make))
      (objects.foldlM (allocate capture.arguments) targets : DeviceM σ ReplayError _)
      (objects.foldlM (allocate capture.arguments) targets) := by
  induction objects generalizing targets with
  | nil => exact DeviceM.records_course_pure (.refl targets)
  | cons object rest induction =>
      rw [List.foldlM_cons, List.foldlM_cons, List.flatMap_cons, List.map_cons,
        ← List.singleton_append]
      refine DeviceM.records_course_bind
        (records_allocate (inhabited object List.mem_cons_self)) fun middle covers => ?_
      refine (induction fun other listed =>
        inhabited other (List.mem_cons_of_mem object listed)).imp fun _ _ course => ?_
      exact course.imp fun _ => covers.trans

theorem records_bindEntry {entry : Nat × Argument} {value : BoundValue}
    (valued : targets.value entry = .ok value) :
    Records (Course (ReplayStep.Asks capture kernel) (fun _ => True) [.bind entry.1])
      (bindEntry kernel targets entry : DeviceM σ ReplayError _)
      (bindEntry kernel targets entry) := by
  rw [bindEntry, bindEntry, valued]
  exact DeviceM.records_course_ask_pure ⟨value, rfl⟩ (fun _ => rfl) fun _ => trivial

theorem records_checkArity (table : ArgumentTable) (kernel : Handle .kernel) :
    Records (fun exchanges outcome => exchanges = [] ∧ (outcome = .ok () ∨
        ∃ declared, declared ≠ table.size ∧ outcome = .error (.arityMismatch declared table.size)))
      (checkArity table kernel : DeviceM σ ReplayError _) (checkArity table kernel) := by
  rw [checkArity, checkArity]
  refine DeviceM.records_arity?_bind fun arity => ?_
  cases arity with
  | none => exact DeviceM.records_pure ⟨rfl, .inl rfl⟩
  | some declared =>
      by_cases same : declared = table.size
      · simp only [if_pos same]
        exact DeviceM.records_pure ⟨rfl, .inl rfl⟩
      · simp only [if_neg same]
        exact DeviceM.records_throw ⟨rfl, .inr ⟨declared, same, rfl⟩⟩

/-- Binding the arguments is refused at once for their number, or takes all steps that prepare the
launch. -/
theorem records_create (capture : Capture) (kernel : Handle .kernel) :
    Records (fun exchanges outcome =>
        (exchanges = [] ∧ ∃ declared, declared ≠ capture.arguments.size ∧
          outcome = .error (.arityMismatch declared capture.arguments.size)) ∨
        Course (ReplayStep.Asks capture kernel) (fun _ => True)
          (ReplayStep.preparing capture.arguments) exchanges outcome)
      (create capture.arguments (.resolve capture.arguments) kernel : DeviceM σ ReplayError _)
      (create capture.arguments (.resolve capture.arguments) kernel) := by
  rw [create, create]
  refine DeviceM.records_bind (records_checkArity capture.arguments kernel) ?_ ?_
  · rintro _ _ ⟨rfl, failed | ⟨declared, differs, failed⟩⟩
    · cases failed
    · cases failed
      exact .inl ⟨rfl, declared, differs, rfl⟩
  · rintro _ _ ⟨rfl, _⟩
    refine Records.imp ?_ fun _ _ => .inr
    rw [ReplayStep.preparing_eq]
    refine DeviceM.records_course_bind (records_allocateAll fun object made =>
      (Allocation.isAliasClass_of_mem_all made).nonempty) fun targets covers => ?_
    rw [← List.append_nil (List.map _ _)]
    refine DeviceM.records_course_bind (DeviceM.records_course_mapM fun entry entry_mem => ?_)
      fun bound _ => DeviceM.records_course_pure trivial
    -- The objects cover all positions, so no binding fails before it is asked for.
    obtain ⟨value, valued⟩ := exists_value_of_covers covers entry_mem
    exact records_bindEntry valued

end Bindings

/-! ## Launching and reading back -/

namespace Output

theorem records_launchTimes (capture : Capture) (kernel : Handle .kernel) (repetitions : Nat) :
    Records (Course (ReplayStep.Asks capture kernel) (fun _ => True)
        (List.replicate repetitions .launch))
      (launchTimes kernel capture.launch.geometry repetitions : DeviceM σ ReplayError _)
      (launchTimes kernel capture.launch.geometry repetitions) := by
  induction repetitions with
  | zero => exact DeviceM.records_course_pure trivial
  | succ more induction =>
      rw [launchTimes, launchTimes, List.replicate_succ, ← List.singleton_append]
      have asked : ReplayStep.Asks capture kernel .launch
          (.launch kernel capture.launch.geometry) := rfl
      exact DeviceM.records_course_bind (DeviceM.records_course_ask asked fun _ => rfl)
        fun _ _ => induction

theorem execute_eq_throw {repetitions : Nat} (none : repetitions = 0) (kernel : Handle .kernel)
    (geometry : Geometry) :
    (execute kernel geometry repetitions : DeviceM σ ReplayError _) = throw .noRepetitions := by
  subst none
  rfl

theorem records_execute (capture : Capture) (kernel : Handle .kernel) {repetitions : Nat}
    (repeated : repetitions ≠ 0) :
    Records (Course (ReplayStep.Asks capture kernel) (fun _ => True)
        (List.replicate repetitions .launch))
      (execute kernel capture.launch.geometry repetitions : DeviceM σ ReplayError _)
      (execute kernel capture.launch.geometry repetitions) := by
  rw [execute, execute, if_neg repeated, if_neg repeated, ← List.append_nil (List.replicate _ _)]
  exact DeviceM.records_course_bind (records_launchTimes capture kernel repetitions)
    fun _ _ => DeviceM.records_course_pure trivial

theorem records_readBack (slots : List OutputSlot) :
    Records (Course (ReplayStep.Asks capture kernel) (fun _ => True) [.readBack])
      (readBack slots : DeviceM σ ReplayError _) (readBack slots) := by
  rw [readBack, readBack]
  exact DeviceM.records_course_ask_pure ⟨_, rfl⟩ (fun _ => rfl) fun _ => trivial

end Output

end LaunchReplay
