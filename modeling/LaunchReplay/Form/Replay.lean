import LaunchReplay.Form.Capture
import LaunchReplay.Replay.Run

/-!
# JSON forms of replays

Attempts to use device binaries, devices, configurations and summaries.
-/

namespace LaunchReplay

open Text

instance : JsonForm BinaryOutcome where
  toJson
    | .built => .text "Built"
    | .buildFailed log => .variant "BuildFailed" (.record [("log", toJson log)])
    | .entryPointMissing => .text "EntryPointMissing"
  ofJson? json := do
    match ← json.variant? with
    | ("BuildFailed", some payload) =>
      let fields ← payload.record? ["log"]
      some (.buildFailed (← fields.required "log" ofJson?))
    | _ => json.alternative? [("Built", .built), ("EntryPointMissing", .entryPointMissing)]

instance : JsonForm BinaryAttempt where
  toJson attempt :=
    .record [("candidate", toJson attempt.candidate), ("outcome", toJson attempt.outcome)]
  ofJson? json := do
    let fields ← json.record? ["candidate", "outcome"]
    some ⟨← fields.required "candidate" ofJson?, ← fields.required "outcome" ofJson?⟩

instance : JsonForm DeviceInfo where
  toJson info := .record [("name", toJson info.name), ("vendor", toJson info.vendor)]
  ofJson? json := do
    let fields ← json.record? ["name", "vendor"]
    some ⟨← fields.required "name" ofJson?, ← fields.required "vendor" ofJson?⟩

instance : JsonForm ReplayConfig where
  toJson config :=
    .record [("repetitions", .natural config.repetitions), ("force_svm", toJson config.forceSvm),
      ("write_outputs", toJson config.writeOutputs), ("test_dir", toJson config.testDirectory)]
  ofJson? json := do
    let fields ← json.record? ["repetitions", "force_svm", "write_outputs", "test_dir"]
    some
      { repetitions := ← fields.required "repetitions" (Json.natural? word32)
        forceSvm := ← fields.required "force_svm" ofJson?
        writeOutputs := ← fields.required "write_outputs" ofJson?
        testDirectory := ← fields.required "test_dir" ofJson? }

instance : JsonForm OutputRecord where
  toJson record :=
    .record [("position", .natural record.position), ("kind", toJson record.kind),
      ("len", .natural record.length), ("digest", toJson record.digest),
      ("path", toJson record.path)]
  ofJson? json := do
    let fields ← json.record? ["position", "kind", "len", "digest", "path"]
    some
      { position := ← fields.required "position" (Json.natural? word32)
        kind := ← fields.required "kind" ofJson?
        length := ← fields.required "len" (Json.natural? word64)
        digest := ← fields.required "digest" ofJson?
        path := ← fields.optional "path" ofJson? }

namespace ReplaySummary

/-- The names of the fields of a summary. -/
def fieldNames : List String :=
  ["enqueue", "kernel_name", "device", "tier", "selected_binary", "geometry", "enqueues",
    "outputs", "notices"]

end ReplaySummary

instance : JsonForm ReplaySummary where
  toJson summary :=
    .record (ReplaySummary.fieldNames.zip
      [toJson summary.enqueue, toJson summary.kernelName, toJson summary.device,
        toJson summary.tier, toJson summary.selectedBinary, toJson summary.geometry,
        .natural summary.enqueues, toJson summary.outputs, Notice.logForm summary.notices])
  ofJson? json := do
    let fields ← json.record? ReplaySummary.fieldNames
    some
      { enqueue := ← fields.required "enqueue" ofJson?
        kernelName := ← fields.required "kernel_name" ofJson?
        device := ← fields.required "device" ofJson?
        tier := ← fields.required "tier" ofJson?
        selectedBinary := ← fields.optional "selected_binary" ofJson?
        geometry := ← fields.required "geometry" ofJson?
        enqueues := ← fields.required "enqueues" (Json.natural? word32)
        outputs := ← fields.required "outputs" ofJson?
        notices := ← fields.required "notices" Notice.readLog? }

end LaunchReplay
