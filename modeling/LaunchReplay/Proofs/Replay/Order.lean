import LaunchReplay.Proofs.Replay.Steps
import LaunchReplay.Proofs.Replay.Writing

/-!
# The order of device calls

A replay acquires its program and then takes its steps in their order. A refusal outside the tries
of device binaries is the last that a device is asked, and its error is the result.
-/

namespace LaunchReplay

variable {σ : Type} [Device σ] {capture : Capture} {kernel : Handle .kernel}

/-! ## After the acquisition -/

/-- The exchanges that follow the acquisition of a kernel, and how they end. -/
inductive Works {α : Type} (capture : Capture) (repetitions : Nat) (kernel : Handle .kernel) :
    List Exchange → Except ReplayError α → Prop
  /-- The kernel declares another number of arguments, and nothing is asked. -/
  | mismatched {declared : Nat} (differs : declared ≠ capture.arguments.size) :
    Works capture repetitions kernel []
      (.error (.arityMismatch declared capture.arguments.size))
  /-- Something that prepares the launches is refused. -/
  | unprepared {exchanges : List Exchange} {error : ReplayError}
    (course : Course (ReplayStep.Asks capture kernel) (fun _ : Bindings => True)
      (ReplayStep.preparing capture.arguments) exchanges (.error error)) :
    Works capture repetitions kernel exchanges (.error error)
  /-- All that prepares the launches is done, but there are to be none. -/
  | unrepeated {exchanges : List Exchange} {bindings : Bindings} (none : repetitions = 0)
    (course : Course (ReplayStep.Asks capture kernel) (fun _ => True)
      (ReplayStep.preparing capture.arguments) exchanges (.ok bindings)) :
    Works capture repetitions kernel exchanges (.error .noRepetitions)
  /-- All steps are taken up to a refusal or to the end. -/
  | repeated {exchanges : List Exchange} {outcome : Except ReplayError α} (some : repetitions ≠ 0)
    (course : Course (ReplayStep.Asks capture kernel) (fun _ => True)
      (ReplayStep.all capture repetitions) exchanges outcome) :
    Works capture repetitions kernel exchanges outcome

namespace Works

variable {α : Type} {repetitions : Nat} {working : List Exchange} {outcome : Except ReplayError α}

/-- The exchanges are for the first of the steps, in their order. -/
theorem asked_in_order (works : Works capture repetitions kernel working outcome) :
    ∃ taken, taken <+: ReplayStep.all capture repetitions ∧
      List.Forall₂ (fun step exchange => ReplayStep.Asks capture kernel step exchange.call)
        taken working := by
  cases works with
  | mismatched _ => exact ⟨[], List.nil_prefix, .nil⟩
  | unprepared course | unrepeated _ course =>
      obtain ⟨taken, first, asked⟩ := course.asked_in_order
      exact ⟨taken, first.trans (List.prefix_append _ _), asked⟩
  | repeated _ course => exact course.asked_in_order

/-- Without repetitions, none of them is for a launch or what follows it. -/
theorem asked_without_repetitions (works : Works capture repetitions kernel working outcome)
    (none : repetitions = 0) :
    (∃ error, outcome = .error error) ∧
      ∃ taken, taken <+: ReplayStep.preparing capture.arguments ∧
        List.Forall₂ (fun step exchange => ReplayStep.Asks capture kernel step exchange.call)
          taken working := by
  cases works with
  | mismatched _ => exact ⟨⟨_, rfl⟩, [], List.nil_prefix, .nil⟩
  | unprepared course | unrepeated _ course => exact ⟨⟨_, rfl⟩, course.asked_in_order⟩
  | repeated some _ => exact absurd none some

theorem eq_of_refusal {before after : List Exchange} {refusal : Refusal}
    (works : Works capture repetitions kernel (before ++ refusal.exchange :: after) outcome) :
    after = [] ∧ outcome = .error refusal.replayError := by
  generalize together : before ++ refusal.exchange :: after = exchanges at works
  cases works with
  | mismatched _ => simp at together
  | unprepared course =>
      rw [← together] at course
      obtain ⟨rfl, same⟩ := course.eq_of_refusal
      cases same
      exact ⟨rfl, rfl⟩
  | unrepeated _ course =>
      rw [← together] at course
      cases course.eq_of_refusal.2
  | repeated _ course =>
      rw [← together] at course
      exact course.eq_of_refusal

/-- Nothing is refused: then the number of arguments or of repetitions was, or all steps were
taken. -/
theorem ends_unrefused (works : Works capture repetitions kernel working outcome)
    (answered : ∀ refusal : Refusal, refusal.exchange ∉ working) :
    (working = [] ∧ ∃ declared, declared ≠ capture.arguments.size ∧
        outcome = .error (.arityMismatch declared capture.arguments.size)) ∨
      (repetitions = 0 ∧ outcome = .error .noRepetitions) ∨
        ((∃ value, outcome = .ok value) ∧
          List.Forall₂ (fun step exchange => ReplayStep.Asks capture kernel step exchange.call)
            (ReplayStep.all capture repetitions) working) := by
  cases works with
  | mismatched differs => exact .inl ⟨rfl, _, differs, rfl⟩
  | unprepared course =>
      obtain ⟨before, refusal, rfl, _⟩ := course.exists_refusal_of_error
      exact absurd (by simp) (answered refusal)
  | unrepeated none _ => exact .inr (.inl ⟨none, rfl⟩)
  | repeated _ course =>
      cases outcome with
      | error error =>
          obtain ⟨before, refusal, rfl, _⟩ := course.exists_refusal_of_error
          exact absurd (by simp) (answered refusal)
      | ok value => exact .inr (.inr ⟨⟨value, rfl⟩, course.taken_of_ok.2⟩)

/-- An error is that of a refusal, or of what is wrong about the number of arguments or of
repetitions. -/
theorem error_eq {error : ReplayError}
    (works : Works capture repetitions kernel working (.error error : Except ReplayError α)) :
    (working = [] ∧ ∃ declared captured, error = .arityMismatch declared captured) ∨
      error = .noRepetitions ∨ ∃ refusal : Refusal, error = refusal.replayError := by
  cases works with
  | mismatched _ => exact .inl ⟨rfl, _, _, rfl⟩
  | unrepeated _ _ => exact .inr (.inl rfl)
  | unprepared course | repeated _ course =>
      obtain ⟨_, refusal, _, same⟩ := course.exists_refusal_of_error
      exact .inr (.inr ⟨refusal, same⟩)

end Works

/-- The exchanges of a replay on a device, in two parts, and how it ends. -/
structure Traffic {α : Type} (capture : Capture) (repetitions : Nat)
    (acquiring working : List Exchange) (acquired : Except ReplayError (Handle .kernel))
    (outcome : Except ReplayError α) : Prop where
  /-- The first part acquires the program. -/
  acquires : Acquires capture.launch capture.program acquiring acquired
  /-- The second is empty if that fails. -/
  unacquired : ∀ error, acquired = .error error → working = [] ∧ outcome = .error error
  /-- It is the other work if it does not. -/
  works : ∀ kernel, acquired = .ok kernel → Works capture repetitions kernel working outcome

namespace DeviceReplay

/-- What a replay does on a device after its program is acquired. -/
def work (config : ReplayConfig) (capture : Capture) (acquired : AcquiredProgram) :
    DeviceM σ ReplayError DeviceReplay := do
  let bindings ← Bindings.create capture.arguments (.resolve capture.arguments) acquired.kernel
  let enqueues ← Output.execute acquired.kernel capture.launch.geometry config.repetitions
  let outputs ← Output.readBack bindings.outputs
  let device ← DeviceM.info
  pure
    { acquired
      enqueues
      outputs
      notices :=
        capture.notices ++ (AliasPlan.resolve capture.arguments).notices ++ acquired.notices
      device }

theorem perform_eq (config : ReplayConfig) (capture : Capture) :
    (perform config capture : DeviceM σ ReplayError _) =
      capture.program.acquire capture.launch >>= work config capture := rfl

theorem records_work (config : ReplayConfig) (capture : Capture) (acquired : AcquiredProgram) :
    Records (Works capture config.repetitions acquired.kernel)
      (work config capture acquired : DeviceM σ ReplayError _) (work config capture acquired) := by
  rw [work, work]
  refine DeviceM.records_bind (Bindings.records_create capture acquired.kernel) ?_ ?_
  · rintro _ _ (⟨rfl, declared, differs, failed⟩ | course)
    · cases failed
      exact .mismatched differs
    · exact .unprepared course
  · rintro prepared bindings (⟨_, _, _, failed⟩ | course)
    · cases failed
    -- Only now is the number of repetitions looked at, when all bindings are made.
    · by_cases none : config.repetitions = 0
      · rw [Output.execute_eq_throw none, Output.execute_eq_throw none]
        refine DeviceM.records_throw ?_
        rw [List.append_nil]
        exact .unrepeated none course
      · refine Records.imp (?_ : Records (Course _ _ (ReplayStep.running config.repetitions)) _ _)
          fun _ _ running => .repeated none (course.append_ok running)
        refine DeviceM.records_course_bind (Output.records_execute capture acquired.kernel none)
          fun enqueues _ => ?_
        refine DeviceM.records_course_bind (Output.records_readBack bindings.outputs)
          fun outputs _ => ?_
        exact DeviceM.records_info_bind fun device => DeviceM.records_course_pure trivial

/-- First the program is acquired, and if it is, the other work follows. -/
theorem records_perform (config : ReplayConfig) (capture : Capture) :
    Records (fun exchanges outcome => ∃ acquiring working acquired,
        exchanges = acquiring ++ working ∧
          Traffic capture config.repetitions acquiring working acquired outcome)
      (perform config capture : DeviceM σ ReplayError _) (perform config capture) := by
  rw [perform_eq, perform_eq]
  refine DeviceM.records_bind (Program.records_acquire capture.launch capture.program) ?_ ?_
  · intro acquiring error acquires
    refine ⟨acquiring, [], _, (List.append_nil _).symm, acquires, ?_, nofun⟩
    rintro other ⟨⟩
    exact ⟨rfl, rfl⟩
  · intro acquiring acquired acquires
    refine (records_work config capture acquired).imp fun working outcome works => ?_
    refine ⟨acquiring, working, _, rfl, acquires, nofun, ?_⟩
    rintro kernel ⟨⟩
    exact works

end DeviceReplay

/-! ## All of a replay -/

/-- Whether some exchanges acquire the program of a replay and others take its steps, as far as they
go, and the result of the replay is what they make of it. -/
structure InOrder {α : Type} (capture : Capture) (repetitions : Nat)
    (acquiring working : List Exchange) (acquired : Except ReplayError (Handle .kernel))
    (result : Except ReplayError α) : Prop where
  /-- First the program is acquired. -/
  acquires : Acquires capture.launch capture.program acquiring acquired
  /-- If it cannot be, that is all. -/
  unacquired : ∀ error, acquired = .error error → working = [] ∧ result = .error error
  /-- If it is, the first of the steps are taken, in their order. -/
  stepwise : ∀ kernel, acquired = .ok kernel → ∃ taken,
    taken <+: ReplayStep.all capture repetitions ∧
      List.Forall₂ (fun step exchange => ReplayStep.Asks capture kernel step exchange.call) taken
        working
  /-- Except while device binaries are tried, a refusal is the last exchange and decides the
  result. -/
  refused : ∀ before after, ∀ refusal : Refusal,
    acquiring ++ working = before ++ refusal.exchange :: after →
      capture.program.tier ≠ .binary ∨ acquiring.length ≤ before.length →
        after = [] ∧ result = .error refusal.replayError
  /-- Unless something is refused, a replay ends early only for its number of arguments, with no
  step taken, or for its number of repetitions. -/
  unrefused : ∀ kernel, acquired = .ok kernel →
    (∀ refusal : Refusal, refusal.exchange ∉ working) →
      (working = [] ∧ ∃ declared, declared ≠ capture.arguments.size ∧
        result = .error (.arityMismatch declared capture.arguments.size)) ∨
      (repetitions = 0 ∧ result = .error .noRepetitions) ∨
      List.Forall₂ (fun step exchange => ReplayStep.Asks capture kernel step exchange.call)
        (ReplayStep.all capture repetitions) working
  /-- A wrong number of arguments ends it right after the acquisition. -/
  mismatched : ∀ declared captured, result = .error (.arityMismatch declared captured) →
    working = []
  /-- And so do device binaries of which none is usable. -/
  exhausted : ∀ attempts, result = .error (.noUsableBinary attempts) → working = []
  /-- Without repetitions, nothing is launched or read back. -/
  unrepeated : repetitions = 0 → (∃ error, result = .error error) ∧ ∀ exchange ∈ working,
    exchange.call.method ≠ .launch ∧ exchange.call.method ≠ .readBack

namespace Traffic

variable {α β : Type} {repetitions : Nat} {acquiring working : List Exchange}
  {acquired : Except ReplayError (Handle .kernel)} {outcome : Except ReplayError α}

/-- A refusal outside the tries of device binaries is the last exchange and the outcome. -/
theorem eq_of_refusal
    (traffic : Traffic capture repetitions acquiring working acquired outcome)
    {before after : List Exchange} {refusal : Refusal}
    (together : acquiring ++ working = before ++ refusal.exchange :: after)
    (outside : capture.program.tier ≠ .binary ∨ acquiring.length ≤ before.length) :
    after = [] ∧ outcome = .error refusal.replayError := by
  have of_working (more : List Exchange) (split : working = more ++ refusal.exchange :: after) :
      after = [] ∧ outcome = .error refusal.replayError := by
    cases ended : acquired with
    | error error =>
        rw [(traffic.unacquired error ended).1] at split
        simp at split
    | ok kernel =>
        have works := traffic.works kernel ended
        rw [split] at works
        exact works.eq_of_refusal
  -- The refusal is among the exchanges after the acquisition, or among those of the acquisition.
  rcases List.append_eq_append_iff.mp together with ⟨more, _, split⟩ | ⟨more, split, rest⟩
  · exact of_working more split
  · cases more with
    | nil => exact of_working [] rest.symm
    | cons first more =>
        obtain ⟨rfl, rfl⟩ := List.cons.inj rest
        have single : capture.program.tier ≠ .binary := by
          refine outside.resolve_right fun shorter => ?_
          simp only [split, List.length_append, List.length_cons] at shorter
          omega
        have acquires := traffic.acquires
        rw [split] at acquires
        obtain ⟨rfl, ended⟩ := acquires.eq_of_refusal single
        obtain ⟨rfl, failed⟩ := traffic.unacquired _ ended
        exact ⟨rfl, failed⟩

/-- If the work was begun, an error is that of a refusal, or of the number of repetitions. -/
theorem error_eq {error : ReplayError}
    (traffic : Traffic capture repetitions acquiring working acquired
      (.error error : Except ReplayError α)) :
    working = [] ∨ error = .noRepetitions ∨ (∃ reason, error = .device reason) ∨
      ∃ tier log, error = .buildFailed tier log := by
  cases ended : acquired with
  | error _ => exact .inl (traffic.unacquired _ ended).1
  | ok kernel =>
      rcases (traffic.works kernel ended).error_eq with ⟨idle, _⟩ | none | ⟨refusal, rfl⟩
      · exact .inl idle
      · exact .inr (.inl none)
      · exact .inr (.inr refusal.replayError_eq)

variable {result : Except ReplayError β}
  (traffic : Traffic capture repetitions acquiring working acquired outcome)
  (fails : ∀ error, outcome = .error error → result = .error error)
  (writes : ∀ value error, outcome = .ok value → result = .error error →
    ∃ path reason, error = .output path reason)

include traffic fails writes

/-- An error that is neither that of a refusal nor about files or the number of repetitions comes
before the work. -/
theorem result_error_eq {error : ReplayError} (failed : result = .error error) :
    working = [] ∨ error = .noRepetitions ∨ (∃ reason, error = .device reason) ∨
      (∃ tier log, error = .buildFailed tier log) ∨ ∃ path reason, error = .output path reason := by
  cases outcome with
  | ok value => exact .inr (.inr (.inr (.inr (writes value error rfl failed))))
  | error first =>
      cases (fails first rfl).symm.trans failed
      rcases traffic.error_eq with idle | none | device | built
      · exact .inl idle
      · exact .inr (.inl none)
      · exact .inr (.inr (.inl device))
      · exact .inr (.inr (.inr (.inl built)))

/-- An outcome may become another result, if errors remain and none is added but for files. -/
theorem inOrder : InOrder capture repetitions acquiring working acquired result where
  acquires := traffic.acquires
  unacquired error ended := (traffic.unacquired error ended).imp_right (fails error)
  stepwise kernel ended := (traffic.works kernel ended).asked_in_order
  refused before after refusal together outside :=
    (traffic.eq_of_refusal together outside).imp_right (fails _)
  unrefused kernel ended answered := by
    rcases (traffic.works kernel ended).ends_unrefused answered with
      ⟨idle, declared, differs, failed⟩ | ⟨none, failed⟩ | ⟨_, taken⟩
    · exact .inl ⟨idle, declared, differs, fails _ failed⟩
    · exact .inr (.inl ⟨none, fails _ failed⟩)
    · exact .inr (.inr taken)
  mismatched declared captured failed := by
    simpa using traffic.result_error_eq fails writes failed
  exhausted attempts failed := by
    simpa using traffic.result_error_eq fails writes failed
  unrepeated none := by
    cases ended : acquired with
    | error error =>
        obtain ⟨idle, failed⟩ := traffic.unacquired error ended
        exact ⟨⟨error, fails error failed⟩, by simp [idle]⟩
    | ok kernel =>
        obtain ⟨⟨error, failed⟩, taken, first, asked⟩ :=
          (traffic.works kernel ended).asked_without_repetitions none
        refine ⟨⟨error, fails error failed⟩, fun exchange listed => ?_⟩
        obtain ⟨step, step_mem, step_asked⟩ := Outcome.exists_of_mem_of_forall₂ asked listed
        exact ReplayStep.method_of_preparing (first.subset step_mem) step_asked

end Traffic

/-- Whatever a device answers, a replay asks for the acquisition of its program and then for its
steps in their order, and the first fatal refusal ends it. -/
theorem Replay.replay_in_order (config : ReplayConfig) (capture : Capture) (tree : FileTree)
    (device : Traced σ) :
    ∃ acquiring working acquired,
      replay config capture tree device =
          ((replay config capture tree device.device).1,
            (replay config capture tree device.device).2.1,
            ⟨(replay config capture tree device.device).2.2,
              device.history ++ (acquiring ++ working)⟩) ∧
        InOrder capture config.repetitions acquiring working acquired
          (replay config capture tree device.device).1 := by
  obtain ⟨_, ⟨acquiring, working, acquired, rfl, traffic⟩, ended⟩ :=
    DeviceReplay.records_perform config capture device
  refine ⟨acquiring, working, acquired, ?_, ?_⟩
  -- What is written to files decides the result, but the device is not asked for anything.
  · rw [Replay.replay, Replay.replay, ended]
    generalize DeviceReplay.perform config capture device.device = run
    obtain ⟨error | replayed, used⟩ := run
    · rfl
    · dsimp only
      generalize Replay.write config capture replayed.outputs tree = wrote
      obtain ⟨error | paths, written⟩ := wrote <;> rfl
  · rw [Replay.replay]
    generalize DeviceReplay.perform config capture device.device = run at traffic
    obtain ⟨error | replayed, used⟩ := run
    · refine traffic.inOrder (fun other failed => ?_) nofun
      cases failed
      rfl
    · refine traffic.inOrder nofun fun _ error _ failed => ?_
      dsimp only at failed
      split at failed
      · rename_i run
        cases failed
        exact Replay.write_error run
      · cases failed

end LaunchReplay
