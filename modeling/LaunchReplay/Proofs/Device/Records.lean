import LaunchReplay.Device.Traced
import LaunchReplay.Proofs.Device.Steps

/-!
# Records of device computations

A computation ends on a traced device as on the device itself, and what it adds to the history is
specified together with how it ends. Such a specification is met by two parts one after the other
if what the first leaves of it is met by the second.
-/

namespace LaunchReplay

variable {σ ε α β : Type}

/-- Whether a computation, wherever it starts, ends on a traced device as on the device itself, and
its exchanges and its outcome meet a specification. -/
def Records (spec : List Exchange → Except ε α → Prop) (plain : DeviceM σ ε α)
    (traced : DeviceM (Traced σ) ε α) : Prop :=
  ∀ before : Traced σ, ∃ exchanges, spec exchanges (plain before.device).1 ∧
    traced before =
      ((plain before.device).1, ⟨(plain before.device).2, before.history ++ exchanges⟩)

theorem Records.imp {spec weaker : List Exchange → Except ε α → Prop} {plain : DeviceM σ ε α}
    {traced : DeviceM (Traced σ) ε α} (records : Records spec plain traced)
    (implied : ∀ exchanges outcome, spec exchanges outcome → weaker exchanges outcome) :
    Records weaker plain traced := by
  intro before
  obtain ⟨exchanges, met, ended⟩ := records before
  exact ⟨exchanges, implied _ _ met, ended⟩

/-- What is known of any value to which a computation comes may be added to its specification. -/
theorem Records.and_value {spec : List Exchange → Except ε α → Prop} {post : α → Prop}
    {plain : DeviceM σ ε α} {traced : DeviceM (Traced σ) ε α} (records : Records spec plain traced)
    (known : ∀ before value after, plain before = (.ok value, after) → post value) :
    Records (fun exchanges outcome => spec exchanges outcome ∧
      ∀ value, outcome = .ok value → post value) plain traced := by
  intro before
  obtain ⟨exchanges, met, ended⟩ := records before
  exact ⟨exchanges, ⟨met, fun value came => known before.device value _ (Prod.ext came rfl)⟩, ended⟩

namespace DeviceM

variable {spec : List Exchange → Except ε α → Prop}

theorem records_pure {value : α} (met : spec [] (.ok value)) :
    Records spec (pure value : DeviceM σ ε α) (pure value) := by
  intro before
  refine ⟨[], met, ?_⟩
  rw [List.append_nil]
  rfl

theorem records_throw {error : ε} (met : spec [] (.error error)) :
    Records spec (throw error : DeviceM σ ε α) (throw error) := by
  intro before
  refine ⟨[], met, ?_⟩
  rw [List.append_nil]
  rfl

/-- An error of the first part must meet the whole specification, and after a result the second
part must meet what is left of it. -/
theorem records_bind {early : List Exchange → Except ε β → Prop} {first : DeviceM σ ε β}
    {first' : DeviceM (Traced σ) ε β} {next : β → DeviceM σ ε α}
    {next' : β → DeviceM (Traced σ) ε α} (start : Records early first first')
    (stops : ∀ exchanges error, early exchanges (.error error) → spec exchanges (.error error))
    (goes_on : ∀ exchanges value, early exchanges (.ok value) →
      Records (fun more outcome => spec (exchanges ++ more) outcome) (next value) (next' value)) :
    Records spec (first >>= next) (first' >>= next') := by
  intro before
  obtain ⟨exchanges, met, ended⟩ := start before
  rw [bind_apply, bind_apply, ended]
  generalize first before.device = run at met
  obtain ⟨outcome, middle⟩ := run
  cases outcome with
  | error error => exact ⟨exchanges, stops exchanges error met, rfl⟩
  | ok value =>
      obtain ⟨more, rest_met, rest_ended⟩ :=
        goes_on exchanges value met ⟨middle, before.history ++ exchanges⟩
      refine ⟨exchanges ++ more, rest_met, ?_⟩
      rw [← List.append_assoc]
      exact rest_ended

variable [Device σ]

/-- What a traced device does is what the device does, with a record of it. -/
theorem perform_traced (call : Call) (before : Traced σ) :
    Device.perform call before =
      ((Device.perform call before.device).1,
        ⟨(Device.perform call before.device).2,
          before.history ++ [⟨call, (Device.perform call before.device).1⟩]⟩) := rfl

theorem records_ask {wrap : DeviceError → ε} {call : Call}
    {spec : List Exchange → Except ε call.Reply → Prop}
    (met : ∀ outcome, spec [⟨call, outcome⟩] (outcome.mapError wrap)) :
    Records spec (ask wrap call : DeviceM σ ε _) (ask wrap call) := by
  intro before
  have found := met (Device.perform call before.device).1
  refine ⟨[⟨call, (Device.perform call before.device).1⟩], ?_⟩
  rw [ask, ask, perform_traced]
  generalize Device.perform call before.device = run at found
  obtain ⟨outcome, after⟩ := run
  cases outcome <;> exact ⟨found, rfl⟩

/-- A call that must succeed, and what follows its reply. -/
theorem records_ask_bind {wrap : DeviceError → ε} {call : Call}
    {next : call.Reply → DeviceM σ ε α} {next' : call.Reply → DeviceM (Traced σ) ε α}
    (refused : ∀ error, spec [⟨call, .error error⟩] (.error (wrap error)))
    (answered : ∀ reply, Records (fun more outcome => spec (⟨call, .ok reply⟩ :: more) outcome)
      (next reply) (next' reply)) :
    Records spec (ask wrap call >>= next) (ask wrap call >>= next') := by
  have asked : Records (fun exchanges outcome => ∃ answer, exchanges = [⟨call, answer⟩] ∧
      outcome = answer.mapError wrap) (ask wrap call : DeviceM σ ε _) (ask wrap call) :=
    records_ask fun answer => ⟨answer, rfl, rfl⟩
  refine records_bind asked ?_ ?_
  · rintro _ _ ⟨error | reply, rfl, failed⟩
    · cases failed
      exact refused error
    · cases failed
  · rintro _ _ ⟨error | reply, rfl, replied⟩
    · cases replied
    · cases replied
      exact answered _

/-- A call that may fail, and what follows its outcome. -/
theorem records_attempt_bind {call : Call} {next : Except DeviceError call.Reply → DeviceM σ ε α}
    {next' : Except DeviceError call.Reply → DeviceM (Traced σ) ε α}
    (answered : ∀ answer, Records (fun more outcome => spec (⟨call, answer⟩ :: more) outcome)
      (next answer) (next' answer)) :
    Records spec (attempt call >>= next) (attempt call >>= next') := by
  have asked : Records (fun exchanges outcome => ∃ answer, exchanges = [⟨call, answer⟩] ∧
      outcome = .ok answer) (attempt call : DeviceM σ ε _) (attempt call) :=
    fun _ => ⟨_, ⟨_, rfl, rfl⟩, rfl⟩
  refine records_bind asked ?_ ?_
  · rintro _ _ ⟨_, _, failed⟩
    cases failed
  · rintro _ _ ⟨answer, rfl, replied⟩
    cases replied
    exact answered _

/-- What a device knows of a kernel is not a call. -/
theorem records_arity?_bind {kernel : Handle .kernel} {next : Option Nat → DeviceM σ ε α}
    {next' : Option Nat → DeviceM (Traced σ) ε α}
    (goes_on : ∀ arity, Records spec (next arity) (next' arity)) :
    Records spec (arity? kernel >>= next) (arity? kernel >>= next') := by
  intro before
  rw [bind_apply, bind_apply]
  exact goes_on (Device.arity? before.device kernel) before

/-- What a device says about itself is not a call. -/
theorem records_info_bind {next : DeviceInfo → DeviceM σ ε α}
    {next' : DeviceInfo → DeviceM (Traced σ) ε α}
    (goes_on : ∀ found, Records spec (next found) (next' found)) :
    Records spec (info >>= next) (info >>= next') := by
  intro before
  rw [bind_apply, bind_apply]
  exact goes_on (Device.info before.device) before

end DeviceM

end LaunchReplay
