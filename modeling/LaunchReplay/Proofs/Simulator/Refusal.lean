import LaunchReplay.Proofs.Simulator.WellBound

/-!
# Calls that a simulated device refuses

A call that fails leaves all of a simulated device as it was, but for the record of a failed build,
and does not get as far as a host kernel. Reading back changes no device; it fills the data of its
requests in order, up to the first that asks for an object which is not there or is too short.
-/

namespace LaunchReplay

namespace Simulator

variable {κ : Type}

/-! ## What a failed call leaves -/

/-- The device with other host kernels. -/
def withHosts (state : Simulator κ) (hosts : String → Option (HostKernel κ)) : Simulator κ :=
  { state with setup := { state.setup with hostKernel? := hosts } }

/-- No call but a launch asks for host kernels. -/
theorem perform_withHosts {call : Call} (not_launch : call.method ≠ .launch)
    (state : Simulator κ) (hosts : String → Option (HostKernel κ)) :
    perform call (state.withHosts hosts) =
      ((perform call state).1, (perform call state).2.withHosts hosts) := by
  cases call with
  | buildProgram image options =>
      cases compiled : compile image <;> simp [perform, buildProgram, compiled, withHosts]
  | createKernel program name =>
      cases named : state.programs[program.index]? with
      | none => simp [perform, createKernel, named, withHosts]
      | some built =>
          cases found : hasEntryPoint built name <;>
            simp [perform, createKernel, named, found, withHosts]
  | createRegion contents length =>
      cases supported : state.setup.supportsRegions <;>
        simp [perform, createRegion, supported, withHosts]
  | createBuffer _ _ | createImage _ _ | createSampler _ => rfl
  | bind handle position value =>
      have same_check : (state.withHosts hosts).checkBind handle position value =
          state.checkBind handle position value := rfl
      rw [perform, perform, Simulator.bind, Simulator.bind, same_check]
      cases state.checkBind handle position value <;> rfl
  | launch handle geometry => exact absurd rfl not_launch
  | readBack requests =>
      have same_store : (state.withHosts hosts).store = state.store := rfl
      rw [perform, perform, readBack, readBack, same_store]
      obtain ⟨contents, error | _⟩ := state.store.fill requests <;> rfl

/-- A call that fails fails in the same way whatever the host kernels are. -/
theorem perform_error_withHosts {call : Call} {error : DeviceError} {state after : Simulator κ}
    (run : perform call state = (.error error, after))
    (hosts : String → Option (HostKernel κ)) :
    perform call (state.withHosts hosts) = (.error error, after.withHosts hosts) := by
  by_cases launching : call.method = .launch
  · cases call with
    | launch handle geometry =>
        have same_check :
            (state.withHosts hosts).checkLaunch handle = state.checkLaunch handle := rfl
        rw [perform, launch] at run ⊢
        rw [same_check]
        split at run <;> cases run
        rfl
    | _ => cases launching
  · rw [perform_withHosts launching, run]

end Simulator

/-! ## Reading back into given data -/

namespace Simulator.Store

variable {store : Store}

/-- Requests are filled as destinations that are zero before. -/
theorem fill_eq_fillInto (store : Store) (requests : List ReadRequest) :
    store.fill requests = store.fillInto (requests.map .zero) := by
  induction requests with
  | nil => rfl
  | cons request rest induction =>
      rw [List.map_cons, fill, fillInto, Destination.request_zero, induction]
      cases store.read request with
      | error error => simp [Destination.zero]
      | ok bytes => rfl

/-- What destinations held before matters neither for the outcome nor for what fills them. -/
theorem fillInto_eq_fill (store : Store) (destinations : List Destination) :
    (store.fillInto destinations).2 = (store.fill (destinations.map (·.request))).2 ∧
      ((store.fillInto destinations).2 = .ok () →
        (store.fillInto destinations).1 = (store.fill (destinations.map (·.request))).1) := by
  induction destinations with
  | nil => exact ⟨rfl, fun _ => rfl⟩
  | cons destination rest induction =>
      rw [List.map_cons, fillInto.eq_def, fill.eq_def]
      dsimp only
      cases store.read destination.request with
      | error error => exact ⟨rfl, fun succeeded => by cases succeeded⟩
      | ok bytes =>
          exact ⟨induction.1, fun succeeded => congrArg (bytes :: ·) (induction.2 succeeded)⟩

/-- Whether an object is there and at least as long as requested. -/
def Holds (store : Store) (request : ReadRequest) : Prop :=
  ∃ bytes, store.bytes? request.source.object = some bytes ∧ request.length ≤ bytes.length

/-- The leading bytes of an object, as many as requested. -/
def leading (store : Store) (request : ReadRequest) : Bytes :=
  ((store.bytes? request.source.object).getD []).take request.length

/-- The error about a request, for each way in which it is bad. -/
inductive Refuses (store : Store) : ReadRequest → DeviceError → Prop
  /-- There is no such buffer or image. -/
  | noMemory {request : ReadRequest} {handle : Handle .memory}
      (object : request.source.object = .memory handle) (absent : store.memory? handle = none) :
      Refuses store request (.invalidHandle .memory handle.index)
  /-- There is no such region. -/
  | noRegion {request : ReadRequest} {handle : Handle .region}
      (object : request.source.object = .region handle) (absent : store.region? handle = none) :
      Refuses store request (.invalidHandle .region handle.index)
  /-- The object is too short. -/
  | short {request : ReadRequest} {bytes : Bytes}
      (held : store.bytes? request.source.object = some bytes)
      (short : bytes.length < request.length) :
      Refuses store request (.transfer ("requested " ++ Text.decimal request.length ++
        " bytes from a " ++ Text.decimal bytes.length ++ "-byte object"))

theorem Refuses.not_holds {request : ReadRequest} {error : DeviceError}
    (refuses : store.Refuses request error) : ¬store.Holds request := by
  rintro ⟨bytes, held, fits⟩
  cases refuses with
  | noMemory object absent => simp [object, bytes?, absent] at held
  | noRegion object absent => simp [object, bytes?, absent] at held
  | short held_short short =>
      cases held_short.symm.trans held
      exact absurd fits (Nat.not_le.mpr short)

/-- One read gives the leading bytes, or the error about what is bad. -/
theorem read_cases (store : Store) (request : ReadRequest) :
    (store.Holds request ∧ store.read request = .ok (store.leading request)) ∨
      ∃ error, store.Refuses request error ∧ store.read request = .error error := by
  cases held : store.bytes? request.source.object with
  | some bytes =>
      by_cases fits : request.length ≤ bytes.length
      · refine .inl ⟨⟨bytes, held, fits⟩, ?_⟩
        rw [read_of_bytes? held fits, leading, held, Option.getD_some]
      · refine .inr ⟨_, .short held (Nat.not_le.mp fits), ?_⟩
        rw [read, source_of_bytes? held]
        exact if_neg fits
  | none =>
      obtain ⟨source, length⟩ := request
      cases source with
      | buffer handle | image handle =>
          have absent : store.memory? handle = none := Option.map_eq_none_iff.mp held
          exact .inr ⟨_, .noMemory rfl absent, by simp [read, source, absent]; rfl⟩
      | svm handle =>
          have absent : store.region? handle = none := held
          exact .inr ⟨_, .noRegion rfl absent, by simp [read, source, absent]; rfl⟩

/-- What filling destinations comes to. -/
structure ReadsBack (store : Store) (destinations : List Destination) (contents : List Bytes)
    (outcome : Except DeviceError Unit) : Prop where
  /-- It succeeds exactly if all objects are there and long enough. -/
  succeeds : outcome = .ok () ↔ ∀ destination ∈ destinations, store.Holds destination.request
  /-- If it does, everything is filled. -/
  filled : outcome = .ok () →
    contents = destinations.map fun destination => store.leading destination.request
  /-- If not, the error is about the first bad request: those before it are filled, and from there
  on nothing is touched. -/
  stopped : ∀ error, outcome = .error error → ∃ good bad rest,
    destinations = good ++ bad :: rest ∧
      (∀ destination ∈ good, store.Holds destination.request) ∧
      store.Refuses bad.request error ∧
      contents = good.map (fun destination => store.leading destination.request) ++
        (bad :: rest).map (·.data)

theorem readsBack_fillInto (store : Store) (destinations : List Destination) :
    store.ReadsBack destinations (store.fillInto destinations).1
      (store.fillInto destinations).2 := by
  induction destinations with
  | nil => exact ⟨by simp [fillInto], fun _ => rfl, fun error failed => by cases failed⟩
  | cons destination rest induction =>
      rw [fillInto.eq_def]
      dsimp only
      rcases store.read_cases destination.request with ⟨holds, read⟩ | ⟨refusal, refuses, read⟩
      · rw [read]
        refine ⟨by simpa [holds] using induction.succeeds, fun succeeded => ?_,
          fun error failed => ?_⟩
        · exact congrArg (_ :: ·) (induction.filled succeeded)
        · obtain ⟨good, bad, later, split, good_hold, refuses, contents_eq⟩ :=
            induction.stopped error failed
          refine ⟨destination :: good, bad, later, congrArg (destination :: ·) split, ?_, refuses,
            congrArg (_ :: ·) contents_eq⟩
          simpa [holds] using good_hold
      · rw [read]
        refine ⟨⟨?_, fun all_hold => ?_⟩, ?_, fun error failed => ?_⟩
        · rintro ⟨⟩
        · exact absurd (all_hold destination (by simp)) refuses.not_holds
        · rintro ⟨⟩
        · cases failed
          exact ⟨[], destination, rest, rfl, by simp, refuses, rfl⟩

end Simulator.Store

namespace Simulator

variable {κ : Type}

/-- Reading back leaves the device alone, and gives what destinations are filled with. -/
theorem perform_readBack (state : Simulator κ) (destinations : List Destination) :
    perform (.readBack (destinations.map (·.request))) state =
      ((state.store.fillInto destinations).2.map fun _ => (state.store.fillInto destinations).1,
        state) := by
  obtain ⟨same_outcome, same_contents⟩ := state.store.fillInto_eq_fill destinations
  rw [perform, readBack]
  generalize state.store.fill (destinations.map (·.request)) = filled at same_outcome same_contents
  obtain ⟨contents, error | _⟩ := filled
  · rw [same_outcome]
    rfl
  · rw [same_contents same_outcome, same_outcome]
    rfl

/-- A call that fails leaves all of the device, but for the record of a failed build, and does not
depend on host kernels. Reading back changes nothing at all, and fills data, whatever it was before,
up to the first bad request. -/
theorem failed_calls_change_nothing (state : Simulator κ) :
    (∀ (call : Call) (error : DeviceError) (after : Simulator κ),
      perform call state = (.error error, after) →
        after = state.refused call ∧
          ∀ hosts, perform call (state.withHosts hosts) =
            (.error error, (state.refused call).withHosts hosts)) ∧
    (∀ requests, state.store.fill requests = state.store.fillInto (requests.map .zero)) ∧
    ∀ destinations : List Destination,
      perform (.readBack (destinations.map (·.request))) state =
        ((state.store.fillInto destinations).2.map fun _ => (state.store.fillInto destinations).1,
          state) ∧
      state.store.ReadsBack destinations (state.store.fillInto destinations).1
        (state.store.fillInto destinations).2 := by
  refine ⟨fun call error after run => ?_, state.store.fill_eq_fillInto,
    fun destinations => ⟨state.perform_readBack destinations,
      state.store.readsBack_fillInto destinations⟩⟩
  obtain rfl := perform_error run
  exact ⟨rfl, perform_error_withHosts run⟩

theorem failed_calls_after_mixedCalls :
    let state := (new stampingSetup ()).after mixedCalls
    perform (.bind ⟨0⟩ 3 (.sampler ⟨7⟩)) state = (.error (.invalidHandle .sampler 7), state) ∧
    perform (.buildProgram (.binary []) "-O1") state =
      (.error (.buildFailed "empty program image"),
        { state with builds := state.builds ++ [⟨.binary, "-O1", false⟩] }) ∧
    ¬(∀ destination ∈ ([⟨.buffer ⟨0⟩, [7, 7]⟩, ⟨.svm ⟨0⟩, [8, 8, 8]⟩] : List Destination),
      state.store.Holds destination.request) := by
  obtain ⟨failed, _, reads⟩ :=
    failed_calls_change_nothing ((new stampingSetup ()).after mixedCalls)
  have refused : ∀ call error, (perform call ((new stampingSetup ()).after mixedCalls)).1 =
      .error error → perform call ((new stampingSetup ()).after mixedCalls) =
        (.error error, ((new stampingSetup ()).after mixedCalls).refused call) :=
    fun call error answer =>
      Prod.ext answer (failed call error _ (Prod.ext answer rfl)).1
  refine ⟨refused (.bind ⟨0⟩ 3 (.sampler ⟨7⟩)) _ (by decide +kernel),
    refused (.buildProgram (.binary []) "-O1") _ (by decide +kernel), fun all_hold => ?_⟩
  have outcome := (reads _).2.succeeds.mpr all_hold
  exact absurd outcome (by decide +kernel)

end Simulator

end LaunchReplay
