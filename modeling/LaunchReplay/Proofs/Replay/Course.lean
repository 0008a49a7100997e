import LaunchReplay.Proofs.Device.Records
import LaunchReplay.Replay.Error

/-!
# Steps in their order

Where each of some steps asks for one call, a device is asked what they ask for, in their order, and
the first call that it refuses is the last one and decides the outcome.
-/

namespace LaunchReplay

/-- A call with the error with which a device refused it. -/
structure Refusal where
  /-- What was asked. -/
  call : Call
  /-- Why it was refused. -/
  error : DeviceError

namespace Refusal

/-- The exchange in which a call was refused. -/
def exchange (refusal : Refusal) : Exchange :=
  ⟨refusal.call, .error refusal.error⟩

/-- The error of a replay that ends with a refusal. -/
def replayError (refusal : Refusal) : ReplayError :=
  match refusal.call with
  | .buildProgram image _ => .ofBuild image.tier refusal.error
  | _ => .device refusal.error

theorem replayError_eq (refusal : Refusal) :
    (∃ error, refusal.replayError = .device error) ∨
      ∃ tier log, refusal.replayError = .buildFailed tier log := by
  obtain ⟨call, error⟩ := refusal
  cases call with
  | buildProgram image options =>
      cases error with
      | buildFailed log => exact .inr ⟨image.tier, log, rfl⟩
      | _ => exact .inl ⟨_, rfl⟩
  | _ => exact .inl ⟨error, rfl⟩

end Refusal

variable {σ α β γ : Type} {asks : β → Call → Prop} {post mid : α → Prop}

/-- Exchanges that ask what steps ask, one after the other, up to a refusal or to the end. -/
inductive Course (asks : β → Call → Prop) (post : α → Prop) :
    List β → List Exchange → Except ReplayError α → Prop
  /-- No step is left. -/
  | finished {value : α} (holds : post value) : Course asks post [] [] (.ok value)
  /-- The call of the first step is refused. -/
  | refused {step : β} {rest : List β} (refusal : Refusal) (asked : asks step refusal.call) :
    Course asks post (step :: rest) [refusal.exchange] (.error refusal.replayError)
  /-- The call of the first step is answered. -/
  | answered {step : β} {rest : List β} {call : Call} {reply : call.Reply}
    {exchanges : List Exchange} {outcome : Except ReplayError α} (asked : asks step call)
    (goes_on : Course asks post rest exchanges outcome) :
    Course asks post (step :: rest) (⟨call, .ok reply⟩ :: exchanges) outcome

namespace Course

variable {steps early late : List β} {exchanges more : List Exchange}
  {outcome : Except ReplayError α}

/-! ## What a course says -/

/-- The steps for which something was asked come first. -/
theorem asked_in_order (course : Course asks post steps exchanges outcome) :
    ∃ taken, taken <+: steps ∧
      List.Forall₂ (fun step exchange => asks step exchange.call) taken exchanges := by
  induction course with
  | finished _ => exact ⟨[], List.nil_prefix, .nil⟩
  | @refused step rest _ asked => exact ⟨[step], ⟨rest, rfl⟩, .cons asked .nil⟩
  | @answered step _ _ _ _ _ asked _ induction =>
      obtain ⟨taken, first, related⟩ := induction
      exact ⟨step :: taken, List.cons_prefix_cons.mpr ⟨rfl, first⟩, .cons asked related⟩

/-- A refusal is the last exchange and decides the outcome. -/
theorem eq_of_refusal {before after : List Exchange} {refusal : Refusal}
    (course : Course asks post steps (before ++ refusal.exchange :: after) outcome) :
    after = [] ∧ outcome = .error refusal.replayError := by
  -- The induction is on the course, and its exchanges are split elsewhere at each of its steps.
  generalize together : before ++ refusal.exchange :: after = exchanges at course
  induction course generalizing before with
  | finished _ => simp at together
  | refused other asked =>
      obtain ⟨rfl, same, rfl⟩ : before = [] ∧ refusal.exchange = other.exchange ∧ after = [] := by
        simpa [List.append_eq_singleton_iff] using together
      obtain ⟨call, error⟩ := refusal
      obtain ⟨_, _⟩ := other
      cases same
      exact ⟨rfl, rfl⟩
  | answered asked _ induction =>
      cases before with
      | nil =>
          obtain ⟨same, _⟩ := List.cons.inj together
          cases same
      | cons first before => exact induction (List.cons.inj together).2

/-- A course that ends with an error ends with a refusal. -/
theorem exists_refusal_of_error {error : ReplayError}
    (course : Course asks post steps exchanges (.error error)) :
    ∃ before, ∃ refusal : Refusal, exchanges = before ++ [refusal.exchange] ∧
      error = refusal.replayError := by
  generalize ended : Except.error error = outcome at course
  induction course with
  | finished _ => cases ended
  | refused refusal _ =>
      cases ended
      exact ⟨[], refusal, rfl, rfl⟩
  | answered _ _ induction =>
      obtain ⟨before, refusal, rfl, same⟩ := induction ended
      exact ⟨_ :: before, refusal, rfl, same⟩

/-- A course that ends with a value took all steps. -/
theorem taken_of_ok {value : α} (course : Course asks post steps exchanges (.ok value)) :
    post value ∧ List.Forall₂ (fun step exchange => asks step exchange.call) steps exchanges := by
  generalize ended : Except.ok value = outcome at course
  induction course with
  | finished holds =>
      cases ended
      exact ⟨holds, .nil⟩
  | refused _ _ => cases ended
  | answered asked _ induction => exact ⟨(induction ended).1, .cons asked (induction ended).2⟩

/-! ## Courses one after the other -/

theorem imp {wanted : α → Prop} (course : Course asks post steps exchanges outcome)
    (implied : ∀ value, post value → wanted value) :
    Course asks wanted steps exchanges outcome := by
  induction course with
  | finished holds => exact .finished (implied _ holds)
  | refused refusal asked => exact .refused refusal asked
  | answered asked _ induction => exact .answered asked induction

theorem append_error {value : ReplayError} {wanted : γ → Prop}
    (course : Course asks post early exchanges (.error value)) :
    Course asks wanted (early ++ late) exchanges (.error value) := by
  generalize ended : Except.error value = outcome at course
  induction course with
  | finished _ => cases ended
  | refused refusal asked =>
      cases ended
      exact .refused refusal asked
  | answered asked _ induction => exact .answered asked (induction ended)

theorem append_ok {value : α} {wanted : γ → Prop} {final : Except ReplayError γ}
    (course : Course asks post early exchanges (.ok value))
    (goes_on : Course asks wanted late more final) :
    Course asks wanted (early ++ late) (exchanges ++ more) final := by
  generalize ended : Except.ok value = outcome at course
  induction course with
  | finished _ => exact goes_on
  | refused _ _ => cases ended
  | answered asked _ induction => exact .answered asked (induction ended)

end Course

/-! ## Computations that take steps -/

namespace DeviceM

theorem records_course_pure {value : α} (holds : post value) :
    Records (Course asks post []) (pure value : DeviceM σ ReplayError α) (pure value) :=
  records_pure (.finished holds)

/-- Parts that take their steps take them together one after the other. -/
theorem records_course_bind {wanted : γ → Prop} {early late : List β}
    {first : DeviceM σ ReplayError α} {first' : DeviceM (Traced σ) ReplayError α}
    {next : α → DeviceM σ ReplayError γ} {next' : α → DeviceM (Traced σ) ReplayError γ}
    (start : Records (Course asks post early) first first')
    (goes_on : ∀ value, post value →
      Records (Course asks wanted late) (next value) (next' value)) :
    Records (Course asks wanted (early ++ late)) (first >>= next) (first' >>= next') :=
  records_bind start (fun _ _ course => course.append_error) fun _ value course =>
    (goes_on value course.taken_of_ok.1).imp fun _ _ more => course.append_ok more

theorem records_course_mapM {items : List γ} {place : γ → β} {step : γ → DeviceM σ ReplayError α}
    {step' : γ → DeviceM (Traced σ) ReplayError α}
    (each : ∀ item ∈ items,
      Records (Course asks (fun _ => True) [place item]) (step item) (step' item)) :
    Records (Course asks (fun _ => True) (items.map place)) (items.mapM step)
      (items.mapM step') := by
  induction items with
  | nil =>
      rw [List.mapM_nil, List.mapM_nil]
      exact records_course_pure trivial
  | cons item rest induction =>
      rw [List.mapM_cons, List.mapM_cons, List.map_cons, ← List.singleton_append]
      refine records_course_bind (each item List.mem_cons_self) fun value _ => ?_
      rw [← List.append_nil (rest.map place)]
      refine records_course_bind (induction fun other listed =>
        each other (List.mem_cons_of_mem item listed)) fun values _ => ?_
      exact records_course_pure trivial

variable [Device σ]

theorem records_course_ask {wrap : DeviceError → ReplayError} {call : Call} {step : β}
    (asked : asks step call) (wraps : ∀ error, wrap error = Refusal.replayError ⟨call, error⟩) :
    Records (Course asks (fun _ => True) [step]) (ask wrap call : DeviceM σ ReplayError _)
      (ask wrap call) := by
  refine records_ask fun outcome => ?_
  cases outcome with
  | error error =>
      rw [Except.mapError, wraps]
      exact .refused ⟨call, error⟩ asked
  | ok reply => exact .answered asked (.finished trivial)

theorem records_course_ask_pure {wrap : DeviceError → ReplayError} {call : Call} {step : β}
    {result : call.Reply → α} (asked : asks step call)
    (wraps : ∀ error, wrap error = Refusal.replayError ⟨call, error⟩)
    (holds : ∀ reply, post (result reply)) :
    Records (Course asks post [step])
      (do let reply ← ask wrap call; pure (result reply) : DeviceM σ ReplayError α)
      (do let reply ← ask wrap call; pure (result reply)) :=
  records_course_bind (records_course_ask asked wraps) fun reply _ =>
    records_course_pure (holds reply)

end DeviceM

end LaunchReplay
