import LaunchReplay.Device.Basic
import Mathlib.Data.List.Forall2

/-!
# Runs of device computations

What a run that ends without an error must have done: each part of a computation ran without an
error, in order, each from the state that the one before it left.
-/

namespace LaunchReplay.DeviceM

variable {σ ε α β : Type}

theorem run_eq_iff {outcome other : Except ε α} {before after : σ} :
    @Eq (Id (Except ε α × σ)) (outcome, before) (other, after) ↔
      outcome = other ∧ before = after :=
  Prod.mk.injEq .. ▸ Iff.rfl

theorem exists_of_isOk {run : Except ε α × σ} (accepted : run.1.isOk) :
    ∃ result after, run = (.ok result, after) := by
  obtain ⟨outcome, after⟩ := run
  cases outcome with
  | error error => cases accepted
  | ok result => exact ⟨result, after, rfl⟩

theorem bind_apply (first : DeviceM σ ε α) (next : α → DeviceM σ ε β) (before : σ) :
    (first >>= next) before =
      match first before with
      | (.ok value, middle) => next value middle
      | (.error error, middle) => (.error error, middle) := by
  change ExceptT.bindCont next (first before).1 (first before).2 = _
  obtain ⟨outcome, middle⟩ := first before
  cases outcome <;> rfl

theorem pure_apply (value : α) (before : σ) :
    (pure value : DeviceM σ ε α) before = (.ok value, before) := rfl

theorem throw_apply (error : ε) (before : σ) :
    (throw error : DeviceM σ ε α) before = (.error error, before) := rfl

/-- A run of two parts ends without an error exactly if both do, one after the other. -/
theorem bind_ok {first : DeviceM σ ε α} {next : α → DeviceM σ ε β} {before after : σ}
    {result : β} :
    (first >>= next) before = (.ok result, after) ↔
      ∃ value middle, first before = (.ok value, middle) ∧
        next value middle = (.ok result, after) := by
  rw [bind_apply]
  obtain ⟨outcome, middle⟩ := first before
  cases outcome <;> simp [run_eq_iff]

/-- A run of two parts ends with an error exactly if one does, the second after the first. -/
theorem bind_error {first : DeviceM σ ε α} {next : α → DeviceM σ ε β} {before after : σ}
    {error : ε} :
    (first >>= next) before = (.error error, after) ↔
      first before = (.error error, after) ∨
        ∃ value middle, first before = (.ok value, middle) ∧
          next value middle = (.error error, after) := by
  rw [bind_apply]
  obtain ⟨outcome, middle⟩ := first before
  cases outcome <;> simp [run_eq_iff]

@[simp]
theorem pure_ok {value result : α} {before after : σ} :
    (pure value : DeviceM σ ε α) before = (.ok result, after) ↔
      value = result ∧ before = after := by
  rw [pure_apply]
  simp [run_eq_iff]

@[simp]
theorem throw_ok {error : ε} {result : α} {before after : σ} :
    ¬ (throw error : DeviceM σ ε α) before = (.ok result, after) := by
  rw [throw_apply]
  simp [run_eq_iff]

variable [Device σ]

/-- A call that must succeed, and does. -/
@[simp]
theorem ask_ok {wrap : DeviceError → ε} {call : Call} {before after : σ} {reply : call.Reply} :
    ask wrap call before = (.ok reply, after) ↔
      Device.perform call before = (.ok reply, after) := by
  rw [ask]
  obtain ⟨outcome, next⟩ := Device.perform call before
  cases outcome <;> simp [run_eq_iff]

/-- A call whose outcome is awaited whatever it is. -/
@[simp]
theorem attempt_ok {call : Call} {before after : σ} {outcome : Except DeviceError call.Reply} :
    (attempt call : DeviceM σ ε _) before = (.ok outcome, after) ↔
      Device.perform call before = (outcome, after) := by
  rw [attempt]
  obtain ⟨found, next⟩ := Device.perform call before
  simp [run_eq_iff]

@[simp]
theorem arity?_ok {kernel : Handle .kernel} {before after : σ} {arity : Option Nat} :
    (arity? kernel : DeviceM σ ε _) before = (.ok arity, after) ↔
      Device.arity? before kernel = arity ∧ before = after := by
  simp [arity?, run_eq_iff]

@[simp]
theorem info_ok {before after : σ} {found : DeviceInfo} :
    (info : DeviceM σ ε _) before = (.ok found, after) ↔
      Device.info before = found ∧ before = after := by
  simp [info, run_eq_iff]

omit [Device σ] in
/-- Each result of a list of computations is that of its item. -/
theorem forall₂_of_mapM_ok {relation : α → β → Prop} {step : α → DeviceM σ ε β}
    {items : List α} {results : List β} {before after : σ}
    (steps : ∀ item ∈ items, ∀ before result after, step item before = (.ok result, after) →
      relation item result)
    (run : items.mapM step before = (.ok results, after)) :
    List.Forall₂ relation items results := by
  induction items generalizing before results after with
  | nil =>
      rw [List.mapM_nil, pure_ok] at run
      exact run.1 ▸ .nil
  | cons item rest induction =>
      rw [List.mapM_cons] at run
      obtain ⟨result, middle, first, run⟩ := bind_ok.mp run
      obtain ⟨others, final, remaining, run⟩ := bind_ok.mp run
      obtain ⟨rfl, _⟩ := pure_ok.mp run
      rw [List.forall_mem_cons] at steps
      exact .cons (steps.1 before result middle first) (induction steps.2 remaining)

end LaunchReplay.DeviceM
