import LaunchReplay.Proofs.Replay.Course
import LaunchReplay.Replay.Acquisition

/-!
# Attempts to acquire a program

An attempt is a build and, if that succeeds, the making of a kernel. Source text and the
intermediate form have one attempt, and a refusal in it is the error of the replay. Device binaries
have one attempt each until one succeeds, and what is refused in the others is no error.
-/

namespace LaunchReplay

/-- The exchanges of one attempt to build an image and to make its kernel, and what comes of it. -/
inductive Attempt (launch : Launch) (image : ProgramImage) :
    List Exchange → Except Refusal (Handle .kernel) → Prop
  /-- The build is refused, and no kernel is asked for. -/
  | unbuilt (error : DeviceError) :
    Attempt launch image [⟨.buildProgram image launch.optionString, .error error⟩]
      (.error ⟨.buildProgram image launch.optionString, error⟩)
  /-- The kernel is refused. -/
  | kernelless (program : Handle .program) (error : DeviceError) :
    Attempt launch image
      [⟨.buildProgram image launch.optionString, .ok program⟩,
        ⟨.createKernel program launch.kernelName, .error error⟩]
      (.error ⟨.createKernel program launch.kernelName, error⟩)
  /-- Both are made. -/
  | usable (program : Handle .program) (kernel : Handle .kernel) :
    Attempt launch image
      [⟨.buildProgram image launch.optionString, .ok program⟩,
        ⟨.createKernel program launch.kernelName, .ok kernel⟩]
      (.ok kernel)

/-- The exchanges of attempts with device binaries, up to the first that is usable, and its kernel,
if there is one. -/
inductive Fallback (launch : Launch) :
    List NamedBlob → List Exchange → Option (Handle .kernel) → Prop
  /-- No binary is left. -/
  | exhausted : Fallback launch [] [] none
  /-- The first binary is not usable, and the others are tried. -/
  | rejected {blob : NamedBlob} {rest : List NamedBlob} {early late : List Exchange}
    {refusal : Refusal} {found : Option (Handle .kernel)}
    (attempt : Attempt launch (.binary blob.bytes) early (.error refusal))
    (goes_on : Fallback launch rest late found) :
    Fallback launch (blob :: rest) (early ++ late) found
  /-- The first binary is usable, and no other is tried. -/
  | accepted {blob : NamedBlob} {rest : List NamedBlob} {exchanges : List Exchange}
    {kernel : Handle .kernel}
    (attempt : Attempt launch (.binary blob.bytes) exchanges (.ok kernel)) :
    Fallback launch (blob :: rest) exchanges (some kernel)

/-- The exchanges in which a program is acquired, and the kernel or the error that comes of it. -/
inductive Acquires (launch : Launch) :
    Program → List Exchange → Except ReplayError (Handle .kernel) → Prop
  /-- Source text is built once. -/
  | source {text : String} {exchanges : List Exchange} {outcome : Except Refusal (Handle .kernel)}
    (attempt : Attempt launch (.source text) exchanges outcome) :
    Acquires launch (.source text) exchanges (outcome.mapError Refusal.replayError)
  /-- The intermediate form is built once. -/
  | intermediate {bytes : Bytes} {exchanges : List Exchange}
    {outcome : Except Refusal (Handle .kernel)}
    (attempt : Attempt launch (.intermediate bytes) exchanges outcome) :
    Acquires launch (.intermediate bytes) exchanges (outcome.mapError Refusal.replayError)
  /-- Without binaries nothing is asked. -/
  | absent :
    Acquires launch (.binaries []) [] (.error (.capture (.missing ⟨FilePattern.deviceBinary.glob⟩)))
  /-- Some binary is usable. -/
  | accepted {candidates : List NamedBlob} {exchanges : List Exchange} {kernel : Handle .kernel}
    (fallback : Fallback launch candidates exchanges (some kernel)) :
    Acquires launch (.binaries candidates) exchanges (.ok kernel)
  /-- All binaries were tried in vain, and the error names each of them. -/
  | exhausted {candidates : List NamedBlob} {exchanges : List Exchange}
    {attempts : List BinaryAttempt} (fallback : Fallback launch candidates exchanges none)
    (names : attempts.map (·.candidate) = candidates.map (·.name)) :
    Acquires launch (.binaries candidates) exchanges (.error (.noUsableBinary attempts))

/-- The notice about a device binary that could not be used because of an error. -/
def Notice.rejection (blob : NamedBlob) : DeviceError → Notice
  | .entryPointMissing _ => .binaryRejected blob.name "entry point not found"
  | .buildFailed log =>
    .binaryRejected blob.name ("build failed: " ++ String.ofList (Text.trim log.toList))
  | other =>
    .binaryRejected blob.name ("build failed: " ++ String.ofList (Text.trim other.message.toList))

theorem BinaryAttempt.notice?_of_error (blob : NamedBlob) (error : DeviceError) :
    notice? ⟨blob.name, .ofError error⟩ = some (.rejection blob error) := by
  cases error <;> rfl

variable {launch : Launch}

/-! ## Refusals -/

/-- What is refused in an attempt is its last exchange and what comes of it. -/
theorem Attempt.eq_of_refusal {image : ProgramImage} {before after : List Exchange}
    {refusal : Refusal} {outcome : Except Refusal (Handle .kernel)}
    (attempt : Attempt launch image (before ++ refusal.exchange :: after) outcome) :
    after = [] ∧ outcome = .error refusal := by
  obtain ⟨call, error⟩ := refusal
  generalize together : before ++ Refusal.exchange ⟨call, error⟩ :: after = exchanges at attempt
  rw [Refusal.exchange] at together
  -- An attempt has at most two exchanges, and only its last one can be the refusal.
  cases attempt with
  | unbuilt _ =>
      obtain ⟨_, refused⟩ | ⟨_, more⟩ := List.append_eq_singleton_iff.mp together
      · cases refused
        exact ⟨rfl, rfl⟩
      · cases more
  | kernelless program _ =>
      match before, together with
      | [_], together =>
          cases together
          exact ⟨rfl, rfl⟩
      | _ :: _ :: _, together => simp at together
  | usable program kernel =>
      match before, together with
      | _ :: _ :: _, together => simp at together

/-- Source text and the intermediate form are not acquired if anything is refused, and then nothing
else is asked. -/
theorem Acquires.eq_of_refusal {program : Program} {before after : List Exchange}
    {refusal : Refusal} {outcome : Except ReplayError (Handle .kernel)}
    (acquires : Acquires launch program (before ++ refusal.exchange :: after) outcome)
    (single : program.tier ≠ .binary) : after = [] ∧ outcome = .error refusal.replayError := by
  generalize together : before ++ refusal.exchange :: after = exchanges at acquires
  cases acquires with
  | source attempt | intermediate attempt =>
      rw [← together] at attempt
      obtain ⟨rfl, rfl⟩ := attempt.eq_of_refusal
      exact ⟨rfl, rfl⟩
  | absent | accepted _ | exhausted _ _ => exact absurd rfl single

/-! ## The program of a capture -/

namespace AcquiredProgram

variable {σ : Type} [Device σ]

theorem records_ofImage (launch : Launch) (image : ProgramImage) :
    Records (fun exchanges outcome => ∃ attempt, Attempt launch image exchanges attempt ∧
        outcome.map (·.kernel) = attempt.mapError Refusal.replayError)
      (ofImage launch image : DeviceM σ ReplayError _) (ofImage launch image) := by
  rw [ofImage, ofImage]
  refine DeviceM.records_ask_bind (fun error => ⟨_, .unbuilt error, rfl⟩) fun program => ?_
  refine DeviceM.records_ask_bind (fun error => ⟨_, .kernelless program error, rfl⟩)
    fun kernel => ?_
  exact DeviceM.records_pure ⟨_, .usable program kernel, rfl⟩

theorem records_tryBinary (launch : Launch) (blob : NamedBlob) :
    Records (fun exchanges outcome =>
        (∃ refusal : Refusal, outcome = .ok (.error refusal.error) ∧
          Attempt launch (.binary blob.bytes) exchanges (.error refusal)) ∨
        ∃ program kernel, outcome = .ok (.ok (program, kernel)) ∧
          Attempt launch (.binary blob.bytes) exchanges (.ok kernel))
      (tryBinary launch blob : DeviceM σ ReplayError _) (tryBinary launch blob) := by
  rw [tryBinary, tryBinary]
  refine DeviceM.records_attempt_bind fun built => ?_
  cases built with
  | error error => exact DeviceM.records_pure (.inl ⟨⟨_, error⟩, rfl, .unbuilt error⟩)
  | ok program =>
      refine DeviceM.records_attempt_bind fun made => ?_
      cases made with
      | error error =>
          exact DeviceM.records_pure (.inl ⟨⟨_, error⟩, rfl, .kernelless program error⟩)
      | ok kernel =>
          exact DeviceM.records_pure (.inr ⟨program, kernel, rfl, .usable program kernel⟩)

theorem records_ofBinaries (launch : Launch) (rejected : List BinaryAttempt)
    (blobs : List NamedBlob) :
    Records (fun exchanges outcome =>
        (∃ acquired, outcome = .ok acquired ∧
          Fallback launch blobs exchanges (some acquired.kernel)) ∨
        ∃ attempts, outcome = .error (.noUsableBinary (rejected ++ attempts)) ∧
          attempts.map (·.candidate) = blobs.map (·.name) ∧ Fallback launch blobs exchanges none)
      (ofBinaries launch rejected blobs : DeviceM σ ReplayError _)
      (ofBinaries launch rejected blobs) := by
  -- What was rejected before grows, and the specification says only what is added to it.
  induction blobs generalizing rejected with
  | nil =>
      rw [ofBinaries, ofBinaries]
      refine DeviceM.records_throw (.inr ⟨[], ?_, rfl, .exhausted⟩)
      rw [List.append_nil]
  | cons blob rest induction =>
      rw [ofBinaries, ofBinaries]
      refine DeviceM.records_bind (records_tryBinary launch blob) ?_ ?_
      · rintro _ _ (⟨_, failed, _⟩ | ⟨_, _, failed, _⟩) <;> cases failed
      · rintro early _ (⟨refusal, ⟨⟩, attempt⟩ | ⟨program, kernel, ⟨⟩, attempt⟩)
        · refine (induction (rejected ++ [⟨blob.name, .ofError refusal.error⟩])).imp ?_
          rintro late outcome (⟨acquired, rfl, fallback⟩ | ⟨attempts, rfl, names, fallback⟩)
          · exact .inl ⟨acquired, rfl, .rejected attempt fallback⟩
          · refine .inr ⟨⟨blob.name, .ofError refusal.error⟩ :: attempts, ?_, ?_,
              .rejected attempt fallback⟩
            · rw [List.append_assoc, List.singleton_append]
            · rw [List.map_cons, List.map_cons, names]
        · refine DeviceM.records_pure (.inl ⟨_, rfl, ?_⟩)
          rw [List.append_nil]
          exact .accepted attempt

end AcquiredProgram

theorem Program.records_acquire {σ : Type} [Device σ] (launch : Launch) (program : Program) :
    Records (fun exchanges outcome => Acquires launch program exchanges (outcome.map (·.kernel)))
      (program.acquire launch : DeviceM σ ReplayError _) (program.acquire launch) := by
  cases program with
  | source text =>
      refine (AcquiredProgram.records_ofImage launch (.source text)).imp ?_
      rintro exchanges outcome ⟨attempt, attempted, same⟩
      rw [same]
      exact .source attempted
  | intermediate bytes =>
      refine (AcquiredProgram.records_ofImage launch (.intermediate bytes)).imp ?_
      rintro exchanges outcome ⟨attempt, attempted, same⟩
      rw [same]
      exact .intermediate attempted
  | binaries candidates =>
      cases candidates with
      | nil => exact DeviceM.records_throw (.absent)
      | cons blob rest =>
          refine (AcquiredProgram.records_ofBinaries launch [] (blob :: rest)).imp ?_
          rintro exchanges outcome (⟨acquired, rfl, fallback⟩ | ⟨attempts, rfl, names, fallback⟩)
          · exact .accepted fallback
          · exact .exhausted fallback names

end LaunchReplay
