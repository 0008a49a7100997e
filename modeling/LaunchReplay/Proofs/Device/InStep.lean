import LaunchReplay.Proofs.Device.Steps

/-!
# Computations in step

Two computations go in step on two devices if they end alike: with corresponding results or with
the same error, and in states that still correspond. It is enough that each part goes in step from
all corresponding states that the run on the first device can reach.
-/

namespace LaunchReplay

variable {σ τ ε α β α' β' : Type} {kept : σ → τ → Prop}

/-- Whether two runs end in corresponding states, with corresponding results or the same error. -/
structure InStep (kept : σ → τ → Prop) (image : α → β) (left : Except ε α × σ)
    (right : Except ε β × τ) : Prop where
  states : kept left.2 right.2
  outcomes : right.1 = left.1.map image

namespace DeviceM

theorem inStep_pure {image : α → β} {value : α} {before : σ} {other : τ}
    (alike : kept before other) :
    InStep kept image ((pure value : DeviceM σ ε α) before)
      ((pure (image value) : DeviceM τ ε β) other) :=
  ⟨alike, rfl⟩

theorem inStep_pure_of_eq {image : α → β} {value : α} {value' : β} {before : σ} {other : τ}
    (same : image value = value') (alike : kept before other) :
    InStep kept image ((pure value : DeviceM σ ε α) before) ((pure value' : DeviceM τ ε β) other) :=
  same ▸ inStep_pure alike

theorem inStep_throw {image : α → β} {error : ε} {before : σ} {other : τ}
    (alike : kept before other) :
    InStep kept image ((throw error : DeviceM σ ε α) before)
      ((throw error : DeviceM τ ε β) other) :=
  ⟨alike, rfl⟩

/-- Parts that go in step one after the other go in step together. -/
theorem inStep_bind {image : α → β} {image' : α' → β'} {first : DeviceM σ ε α}
    {first' : DeviceM τ ε β} {next : α → DeviceM σ ε α'} {next' : β → DeviceM τ ε β'}
    {before : σ} {other : τ} (start : InStep kept image (first before) (first' other))
    (rest : ∀ value middle middle', first before = (.ok value, middle) → kept middle middle' →
      InStep kept image' (next value middle) (next' (image value) middle')) :
    InStep kept image' ((first >>= next) before) ((first' >>= next') other) := by
  rw [bind_apply, bind_apply]
  obtain ⟨states, outcomes⟩ := start
  generalize run : first before = left at states outcomes
  generalize first' other = right at states outcomes
  obtain ⟨outcome, middle⟩ := left
  obtain ⟨outcome', middle'⟩ := right
  obtain rfl : outcome' = outcome.map image := outcomes
  cases outcome with
  | error error => exact ⟨states, rfl⟩
  | ok value => exact rest value middle middle' run states

section

variable [Device σ] [Device τ]

theorem inStep_ask {wrap : DeviceError → ε} (call other : Call) {image : call.Reply → other.Reply}
    {before : σ} {before' : τ}
    (performed : InStep kept image (Device.perform call before) (Device.perform other before')) :
    InStep kept image (ask wrap call before) (ask wrap other before') := by
  rw [ask, ask]
  obtain ⟨states, outcomes⟩ := performed
  generalize Device.perform call before = left at states outcomes
  generalize Device.perform other before' = right at states outcomes
  obtain ⟨outcome, middle⟩ := left
  obtain ⟨outcome', middle'⟩ := right
  obtain rfl : outcome' = outcome.map image := outcomes
  cases outcome <;> exact ⟨states, rfl⟩

theorem inStep_attempt (call other : Call) {image : call.Reply → other.Reply} {before : σ}
    {before' : τ}
    (performed : InStep kept image (Device.perform call before) (Device.perform other before')) :
    InStep kept (Except.map image) ((attempt call : DeviceM σ ε _) before)
      ((attempt other : DeviceM τ ε _) before') :=
  ⟨performed.states, congrArg Except.ok performed.outcomes⟩

theorem inStep_arity? {kernel other : Handle .kernel} {before : σ} {before' : τ}
    (alike : kept before before')
    (same : Device.arity? before' other = Device.arity? before kernel) :
    InStep kept id ((arity? kernel : DeviceM σ ε _) before)
      ((arity? other : DeviceM τ ε _) before') :=
  ⟨alike, congrArg Except.ok same⟩

theorem inStep_info {before : σ} {before' : τ} (alike : kept before before')
    (same : Device.info before' = Device.info before) :
    InStep kept id ((info : DeviceM σ ε _) before) ((info : DeviceM τ ε _) before') :=
  ⟨alike, congrArg Except.ok same⟩

end

variable {items : List α}

theorem inStep_foldlM {image : β → β'} {step : β → α → DeviceM σ ε β}
    {step' : β' → α → DeviceM τ ε β'}
    (steps : ∀ item ∈ items, ∀ value before before', kept before before' →
      InStep kept image (step value item before) (step' (image value) item before'))
    {value : β} {before : σ} {before' : τ} (alike : kept before before') :
    InStep kept image (items.foldlM step value before)
      (items.foldlM step' (image value) before') := by
  induction items generalizing value before before' with
  | nil => exact inStep_pure alike
  | cons item rest induction =>
      rw [List.foldlM_cons, List.foldlM_cons]
      refine inStep_bind (steps item (by simp) value before before' alike) ?_
      intro result middle middle' _ still_alike
      exact induction (fun other other_mem => steps other (by simp [other_mem])) still_alike

/-- Steps that go in step from all states with an invariant, which they keep. -/
theorem inStep_mapM {image : β → β'} {step : α → DeviceM σ ε β} {step' : α → DeviceM τ ε β'}
    {invariant : σ → Prop}
    (steps : ∀ item ∈ items, ∀ before before', invariant before → kept before before' →
      InStep kept image (step item before) (step' item before'))
    (keeps : ∀ item ∈ items, ∀ before result after, invariant before →
      step item before = (.ok result, after) → invariant after)
    {before : σ} {before' : τ} (start : invariant before) (alike : kept before before') :
    InStep kept (List.map image) (items.mapM step before) (items.mapM step' before') := by
  induction items generalizing before before' with
  | nil =>
      rw [List.mapM_nil, List.mapM_nil]
      exact inStep_pure alike
  | cons item rest induction =>
      rw [List.mapM_cons, List.mapM_cons]
      refine inStep_bind (steps item (by simp) before before' start alike) ?_
      intro result middle middle' run still_alike
      refine inStep_bind (induction (fun other other_mem => steps other (by simp [other_mem]))
        (fun other other_mem => keeps other (by simp [other_mem]))
        (keeps item (by simp) before result middle start run) still_alike) ?_
      intro results final final' _ alike_finally
      exact inStep_pure alike_finally

end DeviceM

end LaunchReplay
