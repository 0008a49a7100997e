import Mathlib.Data.List.Forall2

/-!
# Outcomes

Computations that end in a value or an error. One that ends in a value went through all its parts
without an error.
-/

namespace LaunchReplay.Outcome

variable {ε δ α β γ : Type}

theorem bind_ok {outcome : Except ε α} {next : α → Except ε β} {result : β} :
    outcome >>= next = .ok result ↔ ∃ value, outcome = .ok value ∧ next value = .ok result := by
  cases outcome <;> simp [bind, Except.bind]

theorem bind_error {outcome : Except ε α} {next : α → Except ε β} {error : ε} :
    outcome >>= next = .error error ↔
      outcome = .error error ∨ ∃ value, outcome = .ok value ∧ next value = .error error := by
  cases outcome <;> simp [bind, Except.bind]

/-- A computation has the outcome of another if they start alike and go on alike from there. -/
theorem bind_congr {outcome other : Except ε α} {next later : α → Except ε β}
    (start : outcome = other) (rest : ∀ value, other = .ok value → next value = later value) :
    outcome >>= next = other >>= later := by
  subst start
  cases outcome with
  | error error => rfl
  | ok value => exact rest value rfl

@[simp]
theorem map_ok {outcome : Except ε α} {image : α → β} {result : β} :
    outcome.map image = .ok result ↔ ∃ value, outcome = .ok value ∧ image value = result := by
  cases outcome <;> simp [Except.map]

theorem map_bind (outcome : Except ε α) (image : α → β) (next : β → Except ε γ) :
    outcome.map image >>= next = outcome >>= fun value => next (image value) := by
  cases outcome <;> rfl

@[simp]
theorem mapError_ok {outcome : Except ε α} {wrap : ε → δ} {result : α} :
    outcome.mapError wrap = .ok result ↔ outcome = .ok result := by
  cases outcome <;> simp [Except.mapError]

theorem mapError_error {outcome : Except ε α} {wrap : ε → δ} {error : δ} :
    outcome.mapError wrap = .error error ↔
      ∃ cause, outcome = .error cause ∧ wrap cause = error := by
  cases outcome <;> simp [Except.mapError]

theorem toOption_eq_some_iff {outcome : Except ε α} {value : α} :
    outcome.toOption = some value ↔ outcome = .ok value := by
  cases outcome <;> simp [Except.toOption]

theorem isOk_iff_exists {outcome : Except ε α} :
    outcome.isOk = true ↔ ∃ value, outcome = .ok value := by
  cases outcome <;> simp [Except.isOk, Except.toBool]

/-- A run of steps that ends in a value went through every item. -/
theorem exists_step_of_foldlM {step : β → α → Except ε β} {items : List α} {before after : β}
    (run : items.foldlM step before = .ok after) {item : α} (item_mem : item ∈ items) :
    ∃ middle next, step middle item = .ok next := by
  induction items generalizing before with
  | nil => cases item_mem
  | cons first rest induction =>
      rw [List.foldlM_cons] at run
      obtain ⟨middle, stepped, run⟩ := bind_ok.mp run
      rcases List.mem_cons.mp item_mem with rfl | later
      · exact ⟨before, middle, stepped⟩
      · exact induction run later

theorem foldlM_congr {step other : β → α → Except ε β} {items : List α}
    (alike : ∀ item ∈ items, ∀ reached, step reached item = other reached item) (start : β) :
    items.foldlM step start = items.foldlM other start := by
  induction items generalizing start with
  | nil => rfl
  | cons item rest induction =>
      rw [List.foldlM_cons, List.foldlM_cons]
      exact bind_congr (alike item (by simp) start) fun reached _ =>
        induction (fun later later_mem => alike later (by simp [later_mem])) reached

theorem mapM_congr {step other : α → Except ε β} {items : List α}
    (alike : ∀ item ∈ items, step item = other item) :
    items.mapM step = items.mapM other := by
  induction items with
  | nil => rfl
  | cons item rest induction =>
      rw [List.mapM_cons, List.mapM_cons, alike item (by simp),
        induction fun later later_mem => alike later (by simp [later_mem])]

/-- A list of computations ends in values exactly if each does. -/
theorem mapM_ok {step : α → Except ε β} {items : List α} {results : List β} :
    items.mapM step = .ok results ↔
      List.Forall₂ (fun item result => step item = .ok result) items results := by
  induction items generalizing results with
  | nil =>
      rw [List.mapM_nil, List.forall₂_nil_left_iff]
      exact ⟨fun run => (Except.ok.inj run).symm, fun empty => congrArg Except.ok empty.symm⟩
  | cons item rest induction =>
      simp only [List.mapM_cons, bind_ok, List.forall₂_cons_left_iff, induction]
      constructor
      · rintro ⟨result, first, others, remaining, run⟩
        exact ⟨result, others, first, remaining, (Except.ok.inj run).symm⟩
      · rintro ⟨result, others, first, remaining, rfl⟩
        exact ⟨result, first, others, remaining, rfl⟩

theorem exists_of_mem_of_forall₂ {relation : α → β → Prop} {items : List α}
    {results : List β} (related : List.Forall₂ relation items results) {result : β}
    (result_mem : result ∈ results) : ∃ item ∈ items, relation item result := by
  induction related with
  | nil => simp at result_mem
  | cons first _ induction =>
      rcases List.mem_cons.mp result_mem with rfl | result_mem
      · exact ⟨_, List.mem_cons_self, first⟩
      · obtain ⟨item, item_mem, holds⟩ := induction result_mem
        exact ⟨item, List.mem_cons_of_mem _ item_mem, holds⟩

theorem exists_forall₂ {relation : α → β → Prop} {items : List α}
    (each : ∀ item ∈ items, ∃ result, relation item result) :
    ∃ results, List.Forall₂ relation items results := by
  induction items with
  | nil => exact ⟨[], .nil⟩
  | cons item rest induction =>
      obtain ⟨⟨result, first⟩, each⟩ := List.forall_mem_cons.mp each
      obtain ⟨results, others⟩ := induction each
      exact ⟨result :: results, .cons first others⟩

end LaunchReplay.Outcome
